import Mathlib.Data.Nat.Log
import SchemaAtlas.Proofs.Typing.Groups

/-!
# Widths of numbers

A numeric column of Oracle declares how many digits it holds and where they end.
Without decimals it is presented as the narrowest integer type that holds all of
its values, and as a floating-point number where no integer type does.  Where
the digits end to the left of the units, the scale has a sign, and what is
printed is no size: such a column is presented as a type of the user and never
as a number.
-/

namespace SchemaAtlas

open Text

namespace Oracle

/-- A numeric column, with its precision and scale as far as they are
declared. -/
structure NumberColumn where
  precision : Option Nat
  scale : Option Int
  precision_lt : ∀ digits ∈ precision, digits < Nat.pow 2 32
  scale_lt : ∀ decimals ∈ scale, decimals.natAbs < Nat.pow 2 32

namespace NumberColumn

variable (column : NumberColumn)

/-- Neither a precision nor a scale is declared. -/
def IsBare : Prop :=
  column.precision = none ∧ column.scale = none

instance : Decidable column.IsBare :=
  inferInstanceAs (Decidable (_ ∧ _))

def digits : Nat :=
  column.precision.getD 38

/-- How many of the digits are decimals; a negative number of decimals means
zeros behind the digits. -/
def decimals : Int :=
  column.scale.getD 0

/-- The declared size as it is printed. -/
def size : List Char :=
  if column.decimals = 0 then Nat.toDigits 10 column.digits
  else Nat.toDigits 10 column.digits ++
    ',' :: ' ' :: (signedDecimal column.decimals).toList

/-- The descriptor that the query for columns reports. -/
def descriptor : String :=
  if column.IsBare then "number"
  else String.ofList (Descriptor.grouped "number".toList column.size)

/-- The declared size of a column whose decimals are not negative. -/
def extent : Extent :=
  if column.IsBare then Extent.none
  else if column.decimals = 0 then ⟨some column.digits, none⟩
  else ⟨some column.digits, some column.decimals.toNat⟩

/-- The column declares that it holds integers. -/
def IsIntegral : Prop :=
  ¬ column.IsBare ∧ column.decimals ≤ 0

/-- The magnitude that the integers in the column do not reach. -/
def bound : Nat :=
  Nat.pow 10 column.digits * Nat.pow 10 (-column.decimals).toNat

end NumberColumn

/-- The numeric types that a column is presented as. -/
inductive Numeric where
  | integer16
  | integer32
  | integer64
  | floating
  deriving DecidableEq

/-- An integer has the given number of bits, one of which is its sign. -/
def FitsIn (bits : Nat) (value : Int) : Prop :=
  -(Nat.pow 2 (bits - 1) : Int) ≤ value ∧ value < Nat.pow 2 (bits - 1)

namespace Numeric

/-- The numeric types from the narrowest on. -/
def all : List Numeric := [integer16, integer32, integer64, floating]

def bits? : Numeric → Option Nat
  | integer16 => some 16
  | integer32 => some 32
  | integer64 => some 64
  | floating => none

def mapping : Numeric → NativeMapping
  | integer16 => .plain "i16" "0"
  | integer32 => .plain "i32" "0"
  | integer64 => .plain "i64" "0"
  | floating => .plain "f64" "0.0"

/-- An integer type suits a column of integers all of which fit in its bits; a
floating-point number suits every column. -/
def Suits (numeric : Numeric) (column : NumberColumn) : Prop :=
  ∀ bits ∈ numeric.bits?, column.IsIntegral ∧
    ∀ value : Int, value.natAbs < column.bound → FitsIn bits value

/-- No narrower type suits the column. -/
def IsNarrowest (numeric : Numeric) (column : NumberColumn) : Prop :=
  ∃ narrower wider, all = narrower ++ numeric :: wider ∧
    numeric.Suits column ∧ ∀ other ∈ narrower, ¬ other.Suits column

end Numeric

theorem forall_fitsIn_iff {bits bound : Nat} :
    (∀ value : Int, value.natAbs < bound → FitsIn bits value) ↔
      bound ≤ Nat.pow 2 (bits - 1) := by
  constructor
  · intro fits
    rcases Nat.eq_zero_or_pos bound with rfl | positive
    · exact Nat.zero_le _
    · have largest := (fits (bound - 1 : Nat) (by omega)).2
      omega
  · intro small value within
    constructor <;> omega

variable {column : NumberColumn} {context : TypeContext}

namespace Numeric

variable {numeric : Numeric}

theorem suits_floating : floating.Suits column := by
  intro bits isInteger
  cases isInteger

/-- An integer type suits a column without decimals exactly if it has room for
all numbers of so many digits. -/
theorem suits_iff (declared : ¬ column.IsBare) (whole : column.decimals = 0) :
    numeric.Suits column ↔
      ∀ bits ∈ numeric.bits?, column.digits ≤
        Nat.log 10 (Nat.pow 2 (bits - 1)) := by
  have integral : column.IsIntegral := ⟨declared, whole.le⟩
  have bound : column.bound = Nat.pow 10 column.digits := by
    simp [NumberColumn.bound, whole]
  have room (bits : Nat) : column.digits ≤ Nat.log 10 (Nat.pow 2 (bits - 1)) ↔
      column.bound ≤ Nat.pow 2 (bits - 1) := by
    rw [bound]
    exact Nat.le_log_iff_pow_le (by decide) (Nat.two_pow_pos _).ne'
  simp only [Suits, room, forall_fitsIn_iff, integral, true_and]

theorem isNarrowest_floating (fractional : ¬ column.IsIntegral) :
    floating.IsNarrowest column := by
  refine ⟨[integer16, integer32, integer64], [], rfl, suits_floating, ?_⟩
  intro other narrower suits
  have isInteger : ∃ bits, other.bits? = some bits := by
    cases other with
    | floating => simp at narrower
    | _ => exact ⟨_, rfl⟩
  obtain ⟨bits, isInteger⟩ := isInteger
  exact fractional (suits bits isInteger).1

end Numeric

/-- The vocabulary chooses the narrowest type that suits a column of
integers. -/
theorem exists_isNarrowest_of_whole (int32 : context.int32 = "i32")
    (declared : ¬ column.IsBare) (whole : column.decimals = 0) :
    ∃ numeric : Numeric, numeric.IsNarrowest column ∧
      Vocabulary.oracleNumber context ⟨some column.digits, none⟩ =
        numeric.mapping := by
  have suits16 : Numeric.integer16.Suits column ↔ column.digits ≤ 4 := by
    have room : Nat.log 10 (Nat.pow 2 15) = 4 := by decide
    simp [Numeric.suits_iff declared whole, Numeric.bits?, ← room]
  have suits32 : Numeric.integer32.Suits column ↔ column.digits ≤ 9 := by
    have room : Nat.log 10 (Nat.pow 2 31) = 9 := by decide
    simp [Numeric.suits_iff declared whole, Numeric.bits?, ← room]
  have suits64 : Numeric.integer64.Suits column ↔ column.digits ≤ 18 := by
    have room : Nat.log 10 (Nat.pow 2 63) = 18 := by decide
    simp [Numeric.suits_iff declared whole, Numeric.bits?, ← room]
  by_cases within16 : column.digits ≤ 4
  · refine ⟨.integer16, ⟨[], _, rfl, suits16.mpr within16, by simp⟩, ?_⟩
    simp [Vocabulary.oracleNumber, within16, Numeric.mapping]
  by_cases within32 : column.digits ≤ 9
  · refine ⟨.integer32,
      ⟨[.integer16], _, rfl, suits32.mpr within32, by simp [suits16, within16]⟩,
      ?_⟩
    simp [Vocabulary.oracleNumber, within16, within32, int32, Numeric.mapping]
  by_cases within64 : column.digits ≤ 18
  · refine ⟨.integer64, ⟨[.integer16, .integer32], _, rfl, suits64.mpr within64,
      by simp [suits16, suits32, within16, within32]⟩, ?_⟩
    simp [Vocabulary.oracleNumber, within16, within32, within64,
      Numeric.mapping]
  · refine ⟨.floating, ⟨[.integer16, .integer32, .integer64], _, rfl,
      Numeric.suits_floating,
      by simp [suits16, suits32, suits64, within16, within32, within64]⟩, ?_⟩
    simp [Vocabulary.oracleNumber, within16, within32, within64,
      Numeric.mapping]

/-- The vocabulary chooses the narrowest type that suits the column. -/
theorem exists_isNarrowest (int32 : context.int32 = "i32")
    (nonneg : 0 ≤ column.decimals) :
    ∃ numeric : Numeric, numeric.IsNarrowest column ∧
      Vocabulary.oracleNumber context column.extent = numeric.mapping := by
  by_cases bare : column.IsBare
  · refine ⟨.floating, Numeric.isNarrowest_floating fun integral =>
      integral.1 bare, ?_⟩
    rw [NumberColumn.extent, if_pos bare]
    rfl
  by_cases whole : column.decimals = 0
  · rw [NumberColumn.extent, if_neg bare, if_pos whole]
    exact exists_isNarrowest_of_whole int32 bare whole
  · have fractional : ¬ column.IsIntegral := fun integral => by
      have notPositive := integral.2
      omega
    refine ⟨.floating, Numeric.isNarrowest_floating fractional, ?_⟩
    have positive : 0 < column.decimals.toNat := by omega
    simp [NumberColumn.extent, bare, whole, Vocabulary.oracleNumber, positive,
      Numeric.mapping]

/-! ## The printed size -/

theorem trim_toDigits (number : Nat) :
    trim (Nat.toDigits 10 number) = Nat.toDigits 10 number := by
  apply trim_of_solid
  intro c membership
  exact isBlank_of_isAlphanum
    (Bool.or_eq_true_iff.mpr (.inr (isDigit_of_mem_toDigits membership)))

theorem not_mem_toDigits {number : Nat} {c : Char}
    (noDigit : c.isDigit = false) :
    c ∉ Nat.toDigits 10 number := fun membership =>
  Bool.false_ne_true (noDigit.symm.trans (isDigit_of_mem_toDigits membership))

namespace NumberColumn

private theorem digits_lt : column.digits < Nat.pow 2 32 := by
  rw [digits]
  cases declared : column.precision with
  | none => decide
  | some digits => exact column.precision_lt digits declared

private theorem natAbs_decimals_lt : column.decimals.natAbs < Nat.pow 2 32 := by
  rw [decimals]
  cases declared : column.scale with
  | none => decide
  | some decimals => exact column.scale_lt decimals declared

private theorem not_isBare_of_decimals_ne (notWhole : column.decimals ≠ 0) :
    ¬ column.IsBare := by
  rintro ⟨_, undeclared⟩
  exact notWhole (by rw [decimals, undeclared, Option.getD_none])

theorem toList_descriptor (declared : ¬ column.IsBare) :
    column.descriptor.toList =
      Descriptor.grouped "number".toList column.size := by
  rw [descriptor, if_neg declared, String.toList_ofList]

theorem not_mem_size {c : Char} (noDigit : c.isDigit = false)
    (other : c ∉ [',', ' ', '-']) : c ∉ column.size := by
  simp only [List.mem_cons, List.not_mem_nil, or_false, not_or] at other
  obtain ⟨notComma, notBlank, notMinus⟩ := other
  have notDigits {number : Nat} := @not_mem_toDigits number c noDigit
  rw [size, toList_signedDecimal]
  split
  · exact notDigits
  · split <;> simp [notDigits, notComma, notBlank, notMinus]

theorem read?_size (declared : ¬ column.IsBare) (nonneg : 0 ≤ column.decimals) :
    Extent.read? column.size = some column.extent := by
  have noComma {number : Nat} := @not_mem_toDigits number ',' (by decide)
  have precision := unsigned32?_toDigits column.digits_lt
  rw [extent, if_neg declared, size]
  split
  next =>
    rw [Extent.read?_of_not_mem noComma, trim_toDigits, precision,
      Option.map_some]
  next =>
    have scale := unsigned32?_toDigits column.natAbs_decimals_lt
    have behind : ',' ∉ ' ' :: Nat.toDigits 10 column.decimals.natAbs := by
      simp [noComma]
    have trimmed : trim (' ' :: Nat.toDigits 10 column.decimals.natAbs) =
        Nat.toDigits 10 column.decimals.natAbs := by
      rw [trim, trimStart_cons_of_blank (by decide), ← trim, trim_toDigits]
    have sameNumber : column.decimals.natAbs = column.decimals.toNat := by omega
    rw [toList_signedDecimal, if_neg (by omega),
      Extent.read?_pair noComma behind,
      trim_toDigits, precision, trimmed, scale, sameNumber]
    rfl

theorem read?_size_of_neg (negative : column.decimals < 0) :
    Extent.read? (column.size.takeWhile (· != ')')) = none := by
  have closed : column.size.takeWhile (· != ')') = column.size := by
    rw [List.takeWhile_eq_self_iff]
    intro c membership
    have other : c ≠ ')' := by
      rintro rfl
      exact not_mem_size (by decide) (by decide) membership
    simpa using other
  have noComma {number : Nat} := @not_mem_toDigits number ',' (by decide)
  have behind : ',' ∉ ' ' :: '-' :: Nat.toDigits 10 column.decimals.natAbs := by
    simp [noComma]
  have unread : unsigned32? (trim
      (' ' :: '-' :: Nat.toDigits 10 column.decimals.natAbs)) = none := by
    rw [trim, trimStart_cons_of_blank (by decide),
      trimStart_cons_of_solid (by decide), trimEnd_cons_of_solid (by decide)]
    exact unsigned32?_of_odd (by decide) (by decide)
  rw [closed, size, if_neg negative.ne, toList_signedDecimal, if_pos negative,
    Extent.read?_pair noComma behind, unread]
  simp

end NumberColumn

open Descriptor Identifier

theorem isWord_number : IsWord "number".toList := by
  decide

theorem oracle_number (extent : Extent) :
    Vocabulary.oracle context extent (String.ofList (lower "number".toList)) =
      some (Vocabulary.oracleNumber context extent) := by
  have lowered : String.ofList (lower "number".toList) = "number" := by decide
  rw [lowered]
  rfl

theorem resolve_descriptor (nonneg : 0 ≤ column.decimals) (nullable : Bool) :
    Vocabulary.oracle.resolve context column.descriptor nullable =
      ((Vocabulary.oracleNumber context column.extent).present
        context.presentation nullable).withExtent column.extent := by
  by_cases bare : column.IsBare
  · rw [NumberColumn.descriptor, NumberColumn.extent, if_pos bare, if_pos bare,
      Vocabulary.resolve,
      Vocabulary.resolveChars_of_plain isWord_number.isPlain,
      oracle_number]
  · rw [Vocabulary.resolve, NumberColumn.toList_descriptor bare]
    exact Vocabulary.resolveChars_grouped_of_size isWord_number
      (NumberColumn.not_mem_size (by decide) (by decide))
      (NumberColumn.read?_size bare nonneg) (oracle_number column.extent)
        nullable

private theorem resolve_descriptor_of_neg (negative : column.decimals < 0)
    (nullable : Bool) :
    Vocabulary.oracle.resolve context column.descriptor nullable =
      (Spelling.userDefined context column.descriptor.toList
        nullable).withExtent Extent.none := by
  have declared := NumberColumn.not_isBare_of_decimals_ne negative.ne
  rw [Vocabulary.resolve, NumberColumn.toList_descriptor declared]
  exact Vocabulary.resolveChars_grouped Vocabulary.knowsNoGroups_oracle
    isWord_number (NumberColumn.read?_size_of_neg negative) nullable

/-- What a column with a negative number of decimals is presented as is called
like no numeric type. -/
theorem name_ne_of_neg (negative : column.decimals < 0) (numeric : Numeric)
    (presentation : Presentation) (nullable mayMiss : Bool) :
    (Spelling.userDefined context column.descriptor.toList nullable).name ≠
      (numeric.mapping.present presentation mayMiss).name := by
  have declared := NumberColumn.not_isBare_of_decimals_ne negative.ne
  have undotted : '.' ∉ grouped "number".toList column.size := by
    have notInSize :=
      @NumberColumn.not_mem_size column '.' (by decide) (by decide)
    simp [grouped, notInSize]
  rw [NumberColumn.toList_descriptor declared]
  cases numeric <;>
    exact Vocabulary.name_userDefined_grouped_ne isWord_number
      (localName_of_not_mem undotted) (by decide) (by decide) (by decide)
        _ _ _ _

/-- A numeric column is presented as the narrowest numeric type that suits it,
in its optional form where values may be missing, unless the number of its
decimals is negative; then it is presented as a type of the user, and never as a
number. -/
theorem resolve_numberColumn (column : NumberColumn) {context : TypeContext}
    (int32 : context.int32 = "i32") (nullable : Bool) :
    (0 ≤ column.decimals → ∃ numeric : Numeric, numeric.IsNarrowest column ∧
      (Adapter.builtin .oracle).resolve context column.descriptor nullable =
        (numeric.mapping.present context.presentation nullable).withExtent
          column.extent) ∧
    (column.decimals < 0 →
      (Adapter.builtin .oracle).resolve context column.descriptor nullable =
        (Spelling.userDefined context column.descriptor.toList
          nullable).withExtent Extent.none ∧
      ∀ (numeric : Numeric) (presentation : Presentation) (mayMiss : Bool),
        ((Adapter.builtin .oracle).resolve context column.descriptor
            nullable).name ≠
          (numeric.mapping.present presentation mayMiss).name) := by
  rw [Vocabulary.resolve_builtin]
  constructor
  · intro nonneg
    obtain ⟨numeric, isNarrowest, chosen⟩ := exists_isNarrowest int32 nonneg
    refine ⟨numeric, isNarrowest, ?_⟩
    rw [← chosen]
    exact resolve_descriptor nonneg nullable
  · intro negative
    have userDefined :=
      @resolve_descriptor_of_neg column context negative nullable
    refine ⟨userDefined, ?_⟩
    intro numeric presentation mayMiss
    change (Vocabulary.oracle.resolve context column.descriptor nullable).name ≠
      _
    rw [userDefined]
    exact name_ne_of_neg negative numeric presentation nullable mayMiss

/-- The types of Oracle in the schema of an application. -/
def appType (native : String) (nullable : Bool) : TargetType :=
  (Adapter.builtin .oracle).resolve (Options.standard.typeContext "app") native
    nullable

/-- A column for numbers of ten digits, which need more than 32 bits. -/
def tonnage : NumberColumn where
  precision := some 10
  scale := some 0
  precision_lt := by decide
  scale_lt := by decide

/-- A column for numbers of 38 digits, given in hundreds. -/
def freight : NumberColumn where
  precision := some 38
  scale := some (-2)
  precision_lt := by decide
  scale_lt := by decide

theorem resolve_numberColumn_tonnage :
    (Options.standard.typeContext "app").int32 = "i32" ∧
      tonnage.descriptor = "number(10)" ∧ 0 ≤ tonnage.decimals ∧
      Numeric.integer64.IsNarrowest tonnage ∧
      appType "number(10)" true = ⟨"Option<i64>", "None", some 10, none⟩ ∧
      freight.decimals < 0 ∧
      (appType freight.descriptor true).name ≠
        (Numeric.floating.mapping.present .standard true).name := by
  have int32 : (Options.standard.typeContext "app").int32 = "i32" := rfl
  have printed : tonnage.descriptor = "number(10)" := by decide +kernel
  have nonneg : 0 ≤ tonnage.decimals := by decide
  have negative : freight.decimals < 0 := by decide
  obtain ⟨numeric, isNarrowest, resolved⟩ :=
    (resolve_numberColumn tonnage int32 true).1 nonneg
  have seen : appType "number(10)" true =
      ⟨"Option<i64>", "None", some 10, none⟩ := by
    decide +kernel
  have wide : Numeric.integer64.IsNarrowest tonnage := by
    rw [printed, ← appType, seen] at resolved
    cases numeric with
    | integer64 => exact isNarrowest
    | integer16 | integer32 | floating =>
        exact absurd resolved (by decide +kernel)
  exact ⟨int32, printed, nonneg, wide, seen, negative,
    ((resolve_numberColumn freight int32 true).2 negative).2 .floating .standard
      true⟩

/-- Hundreds of 38 digits, which only a floating-point number has room for, get
a type that is named after their size. -/
theorem misses_freight :
    freight.descriptor = "number(38, -2)" ∧
      appType "number(38, -2)" false =
        ⟨"Number382", "Number382::default()", none, none⟩ := by
  decide +kernel

end Oracle

end SchemaAtlas
