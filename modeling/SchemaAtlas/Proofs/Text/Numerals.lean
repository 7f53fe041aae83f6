import SchemaAtlas.Proofs.Text.Words
import SchemaAtlas.Text.Numeral

/-!
# Numerals

A signed numeral is some decimal digits behind at most one sign.  Reading one of
64 bits finds the value of exactly those numerals whose value has 64 bits, and
the numeral that is written for such a value is read as it again.  Reading an
unsigned one of 32 bits does so as well, but refuses a minus sign.
-/

namespace SchemaAtlas.Text

/-- A text is a decimal numeral of a value, with at most one sign in front. -/
inductive Denotes : List Char → Int → Prop where
  | plain {digits : List Char} (nonempty : digits ≠ [])
      (all : ∀ c ∈ digits, c.isDigit = true) :
      Denotes digits (Nat.ofDigitChars 10 digits 0)
  | plus {digits : List Char} (nonempty : digits ≠ [])
      (all : ∀ c ∈ digits, c.isDigit = true) :
      Denotes ('+' :: digits) (Nat.ofDigitChars 10 digits 0)
  | minus {digits : List Char} (nonempty : digits ≠ [])
      (all : ∀ c ∈ digits, c.isDigit = true) :
      Denotes ('-' :: digits) (-(Nat.ofDigitChars 10 digits 0 : Int))

def IsSigned64 (value : Int) : Prop :=
  -(Nat.pow 2 63 : Int) ≤ value ∧ value < Nat.pow 2 63

theorem isSigned64_iff {value : Int} :
    IsSigned64 value ↔
      -9223372036854775808 ≤ value ∧ value < 9223372036854775808 :=
  .rfl

/-- A text is a numeral of a value of 64 bits. -/
def Denotes64 (text : List Char) (value : Int) : Prop :=
  Denotes text value ∧ IsSigned64 value

/-- A text is a numeral of an unsigned value of 32 bits: it may have a plus sign
in front, but no minus sign, not even if the value is zero. -/
structure Denotes32 (text : List Char) (value : Nat) : Prop where
  denotes : Denotes text value
  unsigned : text.head? ≠ some '-'
  bounded : value < Nat.pow 2 32

theorem Denotes32.isDigit_or_plus {text : List Char} {value : Nat}
    (denotes32 : Denotes32 text value) :
    ∀ c ∈ text, c.isDigit = true ∨ c = '+' := by
  obtain ⟨denotes, unsigned, _⟩ := denotes32
  generalize (value : Int) = signed at denotes
  intro c membership
  cases denotes with
  | plain _ all => exact .inl (all c membership)
  | plus _ all =>
      rcases List.mem_cons.mp membership with isPlus | inDigits
      · exact .inr isPlus
      · exact .inl (all c inDigits)
  | minus => exact absurd rfl unsigned

theorem natural?_eq_some_iff {digits : List Char} {value : Nat} :
    natural? digits = some value ↔
      digits ≠ [] ∧ (∀ c ∈ digits, c.isDigit = true) ∧
        Nat.ofDigitChars 10 digits 0 = value := by
  have sameValue : digitsValue digits = Nat.ofDigitChars 10 digits 0 :=
    Nat.ofDigitChars_eq_foldl.symm
  simp [natural?, sameValue, and_assoc]

theorem natural?_of_digits {digits : List Char} (nonempty : digits ≠ [])
    (all : ∀ c ∈ digits, c.isDigit = true) :
    natural? digits = some (Nat.ofDigitChars 10 digits 0) :=
  natural?_eq_some_iff.mpr ⟨nonempty, all, rfl⟩

theorem isDigit_of_mem_toDigits {number : Nat} {c : Char}
    (membership : c ∈ Nat.toDigits 10 number) : c.isDigit = true :=
  Nat.isDigit_of_mem_toDigits (by decide) (by decide) membership

theorem unsigned32?_of_head {text : List Char}
    (noSign : text.head? ≠ some '+') :
    unsigned32? text = (natural? text).filter (· < Nat.pow 2 32) := by
  unfold unsigned32?
  split
  · exact absurd rfl noSign
  · rfl

theorem unsigned32?_of_odd {first : Char} {rest : List Char}
    (noDigit : first.isDigit = false) (noSign : first ≠ '+') :
    unsigned32? (first :: rest) = none := by
  have notNatural : natural? (first :: rest) = none := by
    simp [natural?, noDigit]
  rw [unsigned32?_of_head (by simpa using noSign), notNatural,
    Option.filter_none]

private theorem denotes32_of_unsigned32? {text : List Char} {value : Nat}
    (read : unsigned32? text = some value) : Denotes32 text value := by
  by_cases signed : text.head? = some '+'
  · obtain ⟨digits, rfl⟩ := List.head?_eq_some_iff.mp signed
    obtain ⟨isNatural, bounded⟩ := Option.filter_eq_some_iff.mp read
    obtain ⟨nonempty, all, rfl⟩ := natural?_eq_some_iff.mp isNatural
    exact ⟨.plus nonempty all, by simp, of_decide_eq_true bounded⟩
  · rw [unsigned32?_of_head signed] at read
    obtain ⟨isNatural, bounded⟩ := Option.filter_eq_some_iff.mp read
    obtain ⟨nonempty, all, rfl⟩ := natural?_eq_some_iff.mp isNatural
    refine ⟨.plain nonempty all, ?_, of_decide_eq_true bounded⟩
    intro minus
    exact absurd (all '-' (List.mem_of_mem_head? minus)) (by decide)

private theorem unsigned32?_of_denotes32 {text : List Char} {value : Nat}
    (denotes32 : Denotes32 text value) : unsigned32? text = some value := by
  obtain ⟨denotes, unsigned, bounded⟩ := denotes32
  generalize same : (value : Int) = signed at denotes
  cases denotes with
  | plain nonempty all =>
      have noSign : text.head? ≠ some '+' := by
        intro plus
        exact absurd (all '+' (List.mem_of_mem_head? plus)) (by decide)
      rw [unsigned32?_of_head noSign, natural?_of_digits nonempty all,
        ← Int.ofNat.inj same, Option.filter_eq_some_iff]
      exact ⟨rfl, decide_eq_true bounded⟩
  | plus nonempty all =>
      rw [unsigned32?, natural?_of_digits nonempty all, ← Int.ofNat.inj same,
        Option.filter_eq_some_iff]
      exact ⟨rfl, decide_eq_true bounded⟩
  | minus => exact absurd rfl unsigned

theorem unsigned32?_eq_some_iff {text : List Char} {value : Nat} :
    unsigned32? text = some value ↔ Denotes32 text value :=
  ⟨denotes32_of_unsigned32?, unsigned32?_of_denotes32⟩

theorem unsigned32?_toDigits {value : Nat} (bounded : value < Nat.pow 2 32) :
    unsigned32? (Nat.toDigits 10 value) = some value := by
  have read : natural? (Nat.toDigits 10 value) = some value := by
    simp [natural?_of_digits Nat.toDigits_ne_nil fun _ =>
      isDigit_of_mem_toDigits]
  have noSign : (Nat.toDigits 10 value).head? ≠ some '+' := fun signed =>
    absurd (isDigit_of_mem_toDigits (List.mem_of_mem_head? signed)) (by decide)
  rw [unsigned32?_of_head noSign, read, Option.filter_eq_some_iff]
  exact ⟨rfl, decide_eq_true bounded⟩

private theorem denotes64_of_signed64? {text : List Char} {value : Int}
    (read : signed64? text = some value) : Denotes64 text value := by
  unfold signed64? at read
  split at read
  all_goals
    obtain ⟨magnitude, isNatural, bounded⟩ := Option.bind_eq_some_iff.mp read
    obtain ⟨nonempty, all, rfl⟩ := natural?_eq_some_iff.mp isNatural
    obtain ⟨inRange, rfl⟩ : _ ∧ _ := by simpa using bounded
  case h_1 => exact ⟨.minus nonempty all, isSigned64_iff.mpr (by omega)⟩
  case h_2 => exact ⟨.plus nonempty all, isSigned64_iff.mpr (by omega)⟩
  case h_3 => exact ⟨.plain nonempty all, isSigned64_iff.mpr (by omega)⟩

private theorem signed64?_of_digits {digits : List Char}
    (all : ∀ c ∈ digits, c.isDigit = true) :
    signed64? digits = (natural? digits).bind fun value =>
      if value < Nat.pow 2 63 then some (value : Int) else none := by
  unfold signed64?
  split
  · simp at all
  · simp at all
  · rfl

private theorem signed64?_of_denotes64 {text : List Char} {value : Int}
    (denotes : Denotes64 text value) : signed64? text = some value := by
  obtain ⟨denotes, inRange⟩ := denotes
  rw [isSigned64_iff] at inRange
  cases denotes with
  | plain nonempty all =>
      rw [signed64?_of_digits all, natural?_of_digits nonempty all,
        Option.bind_some, Nat.pow_eq, if_pos (by omega)]
  | plus nonempty all =>
      rw [signed64?, natural?_of_digits nonempty all, Option.bind_some,
        Nat.pow_eq, if_pos (by omega)]
  | minus nonempty all =>
      rw [signed64?, natural?_of_digits nonempty all, Option.bind_some,
        Nat.pow_eq, if_pos (by omega)]

theorem signed64?_eq_some_iff {text : List Char} {value : Int} :
    signed64? text = some value ↔ Denotes64 text value :=
  ⟨denotes64_of_signed64?, signed64?_of_denotes64⟩

theorem toList_signedDecimal (value : Int) : (signedDecimal value).toList =
    if value < 0 then '-' :: Nat.toDigits 10 value.natAbs
    else Nat.toDigits 10 value.natAbs := by
  cases value with
  | ofNat number => simp [signedDecimal, decimal]
  | negSucc number => simp [signedDecimal, decimal]

theorem denotes_signedDecimal (value : Int) :
    Denotes (signedDecimal value).toList value := by
  have all : ∀ number, ∀ c ∈ Nat.toDigits 10 number, c.isDigit = true :=
    fun _ _ => isDigit_of_mem_toDigits
  cases value with
  | ofNat number =>
      simpa [signedDecimal, decimal] using
        Denotes.plain Nat.toDigits_ne_nil (all number)
  | negSucc number =>
      simpa [signedDecimal, decimal, Int.negSucc_eq] using
        Denotes.minus Nat.toDigits_ne_nil (all (number + 1))

end SchemaAtlas.Text
