import Mathlib.Data.List.Basic
import SchemaAtlas.Proofs.Text.Cutting
import SchemaAtlas.Registry

/-!
# Labels between quotes

An inline type prints its labels in quotes, with a comma between any two of them
and a quote inside a label written twice.  Reading such a type finds the labels
again, whatever they consist of: a quote that ends a label is never followed by
another one, and what stands at the ends of the type belongs to no label.
-/

namespace SchemaAtlas

open Text Adapter

namespace Catalog

/-- Labels as a type lists them. -/
def listed (values : List String) : List Char :=
  [','].intercalate
    (values.map fun value => (Adapter.quoteWith labelQuote value).toList)

/-- An inline type: a word, and the labels in parentheses behind it. -/
def inlineType (word : String) (values : List String) : String :=
  String.ofList (word.toList ++ '(' :: listed values ++ [')'])

/-- Records of labels in order, counted from one. -/
def Numbers (values : List String) (records : List LabelRecord) : Prop :=
  ∀ place : Nat, records[place]? =
    values[place]?.map fun value => ⟨value, (place : Int) + 1⟩

theorem listed_singleton (value : String) :
    listed [value] =
      labelQuote :: doubleMarks labelQuote value.toList ++ [labelQuote] := by
  simp [listed, toList_quoteWith]

theorem listed_cons_cons (value next : String) (rest : List String) :
    listed (value :: next :: rest) =
      labelQuote :: doubleMarks labelQuote value.toList ++
        labelQuote :: ',' :: listed (next :: rest) := by
  simp [listed, toList_quoteWith, List.intercalate_cons_cons]

/-! ## One step of the reader -/

variable {letters rest : List Char} {c : Char}

theorem labelsFrom_opening :
    labelsFrom none (labelQuote :: rest) = labelsFrom (some []) rest := by
  simp [labelsFrom]

theorem labelsFrom_between (other : c ≠ labelQuote) :
    labelsFrom none (c :: rest) = labelsFrom none rest := by
  simp [labelsFrom, other]

theorem labelsFrom_letter (other : c ≠ labelQuote) :
    labelsFrom (some letters) (c :: rest) =
      labelsFrom (some (c :: letters)) rest := by
  cases rest <;> simp [labelsFrom, other]

theorem labelsFrom_pair :
    labelsFrom (some letters) (labelQuote :: labelQuote :: rest) =
      labelsFrom (some (labelQuote :: letters)) rest := by
  simp [labelsFrom]

theorem labelsFrom_closing (alone : rest.head? ≠ some labelQuote) :
    labelsFrom (some letters) (labelQuote :: rest) =
      letters.reverse :: labelsFrom none rest := by
  cases rest with
  | nil => simp [labelsFrom]
  | cons next rest =>
      have other : next ≠ labelQuote := fun same => alone (by simp [same])
      simp [labelsFrom, other]

/-! ## Whole labels -/

/-- Inside a label everything is read up to the first quote that stands
alone. -/
theorem labelsFrom_doubleMarks (label : List Char)
    (alone : rest.head? ≠ some labelQuote) :
    labelsFrom (some letters)
        (doubleMarks labelQuote label ++ labelQuote :: rest) =
      (letters.reverse ++ label) :: labelsFrom none rest := by
  induction label generalizing letters with
  | nil =>
      rw [List.append_nil]
      exact labelsFrom_closing alone
  | cons c label ih =>
      by_cases isQuote : c = labelQuote
      · rw [isQuote, doubleMarks_mark, List.cons_append, List.cons_append,
          labelsFrom_pair, ih, List.reverse_cons, List.append_assoc]
        rfl
      · rw [doubleMarks_other isQuote, List.cons_append,
          labelsFrom_letter isQuote, ih, List.reverse_cons, List.append_assoc]
        rfl

theorem labelsFrom_quoted (label : List Char)
    (alone : rest.head? ≠ some labelQuote) :
    labelsFrom none
        (labelQuote :: doubleMarks labelQuote label ++ labelQuote :: rest) =
      label :: labelsFrom none rest := by
  rw [List.cons_append, labelsFrom_opening, labelsFrom_doubleMarks label alone]
  rfl

theorem labelsFrom_listed (values : List String) :
    labelsFrom none (listed values) = values.map String.toList := by
  induction values with
  | nil => simp [listed, labelsFrom]
  | cons value rest ih =>
      cases rest with
      | nil =>
          rw [listed_singleton, labelsFrom_quoted _ (by simp)]
          simp [labelsFrom]
      | cons next rest =>
          -- The comma keeps the quotes of two labels apart.
          have alone : (',' :: listed (next :: rest)).head? ≠ some labelQuote :=
            fun same => absurd (Option.some.inj same) (by decide)
          rw [listed_cons_cons, labelsFrom_quoted _ alone,
            labelsFrom_between (by decide), ih]
          rfl

/-- The word and the parentheses of an enumeration are taken away, with the
white space around them. -/
theorem labelList_inlineType {before after : List Char}
    (blankBefore : ∀ c ∈ before, isBlank c = true)
    (blankAfter : ∀ c ∈ after, isBlank c = true) (values : List String) :
    labelList (before ++ (inlineType "enum" values).toList ++ after) =
      listed values := by
  have shape : (inlineType "enum" values).toList =
      "enum(".toList ++ (listed values ++ [')']) := by
    rw [inlineType, String.toList_ofList]
    rfl
  have trimmed : trim ("enum(".toList ++ (listed values ++ [')'])) =
      "enum(".toList ++ (listed values ++ [')']) :=
    trim_enclosed (by decide) (by decide) ("num(".toList ++ listed values)
  have closed : withoutEnd? ")".toList (listed values ++ [')']) =
      some (listed values) :=
    withoutEnd?_append (listed values) [')']
  rw [labelList, trim_padded blankBefore blankAfter, shape, trimmed,
    withoutStart?_append, Option.bind_some, closed, Option.getD_some]

theorem labels_inlineType {before after : String}
    (blankBefore : ∀ c ∈ before.toList, isBlank c = true)
    (blankAfter : ∀ c ∈ after.toList, isBlank c = true) (values : List String) :
    labels (before ++ inlineType "enum" values ++ after) = values := by
  rw [labels, String.toList_append, String.toList_append,
    labelList_inlineType blankBefore blankAfter, labelsFrom_listed]
  simp

/-! ## The answer to the query for labels -/

theorem numbers_numberLabels (values : List String) :
    Numbers values (MySql.numberLabels values) := by
  intro place
  simp only [MySql.numberLabels, List.getElem?_map, List.getElem?_zipIdx,
    Option.map_map, Nat.zero_add]
  rfl

theorem enumLabels_apply {connection : Connection} {earlier : List Request}
    {schema enumeration columnType : String} {row : Row} {rows : List Row}
    (answered : connection.query earlier MySql.Queries.enumLabels
      [schema, enumeration] = .ok (row :: rows))
    (reported : row.optionalText 0 = .ok (some columnType)) :
    (Adapter.builtin .mysql).enumLabels schema enumeration connection earlier =
      (.ok (MySql.numberLabels (labels columnType)),
        [.query MySql.Queries.enumLabels [schema, enumeration]]) := by
  show ((Inquiry.value? MySql.Queries.enumLabels [schema, enumeration]) >>=
    fun columnType => pure (MySql.numberLabels
      (labels (columnType.getD "")))) connection earlier = _
  have asked : Inquiry.value? MySql.Queries.enumLabels [schema, enumeration]
      connection earlier =
        (.ok (some columnType),
          [.query MySql.Queries.enumLabels [schema, enumeration]]) := by
    rw [Inquiry.value?, Recorded.bind_apply, Inquiry.rows, answered]
    simp only [Inquiry.liftDriver, Except.mapError, reported]
    rfl
  rw [Recorded.bind_apply, asked]
  rfl

/-- Reading an enumeration type, which may have white space around it, finds the
labels that it prints, and a connection that reports it has them numbered in
order. -/
theorem labels_roundTrip {before after : String}
    (blankBefore : ∀ c ∈ before.toList, isBlank c = true)
    (blankAfter : ∀ c ∈ after.toList, isBlank c = true) (values : List String) :
    labels (before ++ inlineType "enum" values ++ after) = values ∧
      ∀ (connection : Connection) (earlier : List Request)
        (schema enumeration : String) (row : Row) (rows : List Row),
        connection.query earlier MySql.Queries.enumLabels
            [schema, enumeration] = .ok (row :: rows) →
        row.optionalText 0 =
            .ok (some (before ++ inlineType "enum" values ++ after)) →
        ∃ records,
          (Adapter.builtin .mysql).enumLabels schema enumeration connection
              earlier =
            (.ok records,
              [.query MySql.Queries.enumLabels [schema, enumeration]]) ∧
          Numbers values records := by
  have found := labels_inlineType blankBefore blankAfter values
  refine ⟨found, ?_⟩
  intro connection earlier schema enumeration row rows answered reported
  refine ⟨MySql.numberLabels values, ?_, numbers_numberLabels values⟩
  rw [enumLabels_apply answered reported, found]

/-- Labels that are empty, that consist of a quote, or that look like the end of
the list. -/
def oddLabels : List String :=
  ["", "'", "'')", "a,'b", " größe "]

/-- A connection that reports an enumeration of the odd labels. -/
def stall : Connection :=
  .scripted (fun _ _ => .ok [⟨[.text (" \n" ++ inlineType "enum" oddLabels ++
    "\u00a0")]⟩]) fun _ => .ok ()

theorem labels_roundTrip_stall :
    inlineType "enum" oddLabels =
        "enum('','''',''''')','a,''b',' größe ')" ∧
      labels (" \n" ++ inlineType "enum" oddLabels ++ "\u00a0") = oddLabels ∧
      ∃ records,
        (Adapter.builtin .mysql).enumLabels "shop" "size" stall [] =
          (.ok records, [.query MySql.Queries.enumLabels ["shop", "size"]]) ∧
        Numbers oddLabels records := by
  obtain ⟨found, reads⟩ := @labels_roundTrip " \n" "\u00a0"
    (List.all_eq_true.mp (by decide)) (List.all_eq_true.mp (by decide))
      oddLabels
  exact ⟨by decide +kernel, found,
    reads stall [] "shop" "size" _ [] rfl rfl⟩

end Catalog

end SchemaAtlas
