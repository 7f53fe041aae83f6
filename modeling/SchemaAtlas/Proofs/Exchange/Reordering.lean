import SchemaAtlas.Proofs.Exchange.Comparing
import Mathlib.Data.List.Perm.Basic

/-!
# Replies in another order

Two scripted connections can report the same rows in different orders.  What is
read of the rows is then the same up to order, and it can be read of the one
reply if it can be read of the other, although the first row that cannot be read
need not be the same.

Over a scripted connection an inquiry finds the same whenever it is asked, so it
can be asked for the items of a list in any order.
-/

namespace SchemaAtlas

open Catalog

/-- Where a list of outcomes is reordered, so are its values, and it fails
nevertheless if it fails. -/
theorem mapM_perm {ε α β : Type} (step : α → Except ε β) {items others : List α}
    (perm : items.Perm others) :
    (∃ cause other, items.mapM step = .error cause ∧
      others.mapM step = .error other) ∨
    ∃ values more, items.mapM step = .ok values ∧ others.mapM step = .ok more ∧
      values.Perm more := by
  rcases mapM_eq_error_or_ok step items with
    ⟨item, membership, cause, failed, run⟩ | ⟨values, run, succeeds⟩
  · rcases mapM_eq_error_or_ok step others with
      ⟨_, _, other, _, otherRun⟩ | ⟨_, _, otherSucceeds⟩
    · exact .inl ⟨cause, other, run, otherRun⟩
    · obtain ⟨value, succeeded⟩ :=
        otherSucceeds item (perm.mem_iff.mp membership)
      rw [failed] at succeeded
      cases succeeded
  · rcases mapM_eq_error_or_ok step others with
      ⟨item, membership, cause, failed, _⟩ | ⟨more, otherRun, _⟩
    · obtain ⟨value, succeeded⟩ := succeeds item (perm.mem_iff.mpr membership)
      rw [failed] at succeeded
      cases succeeded
    · refine .inr ⟨values, more, run, otherRun, ?_⟩
      -- The values are determined by the items that they are the outcomes of.
      have determined : Relator.RightUnique fun item value =>
          step item = .ok value := by
        intro item value other first second
        rw [first] at second
        exact Except.ok.inj second
      exact List.rel_perm_imp determined (forall₂_of_mapM_eq_ok run)
        (forall₂_of_mapM_eq_ok otherRun) perm

/-- No two rows report the same value in what is read of them. -/
def DistinctBy {α : Type} (read : Row → Except DriverError α)
    (rows : List Row) : Prop :=
  rows.Pairwise fun row other =>
    ∀ value, read row = .ok value → read other ≠ .ok value

/-- Two replies are the same refusal, or the same rows in any order.  The rows
are of some form. -/
inductive Reordered (form : List Row → Prop) :
    Except DriverError (List Row) → Except DriverError (List Row) → Prop where
  | refused (cause : DriverError) : Reordered form (.error cause) (.error cause)
  | rows {rows others : List Row} (perm : rows.Perm others)
      (formed : form rows) : Reordered form (.ok rows) (.ok others)

/-- The names of records are distinct if the rows report distinct names. -/
theorem nodup_map_of_distinctBy {α β : Type} {rows : List Row}
    {read : Row → Except DriverError α} {readName : Row → Except DriverError β}
    {name : α → β} {records : List α} (distinct : DistinctBy readName rows)
    (named : ∀ {row record}, read row = .ok record →
      readName row = .ok (name record))
    (run : rows.mapM read = .ok records) : (records.map name).Nodup := by
  have each := forall₂_of_mapM_eq_ok run
  clear run
  induction each with
  | nil => exact .nil
  | @cons row record rest records first others ih =>
      rw [DistinctBy, List.pairwise_cons] at distinct
      rw [List.map_cons, List.nodup_cons]
      refine ⟨?_, ih distinct.2⟩
      intro again
      obtain ⟨other, isLater, sameName⟩ := List.mem_map.mp again
      obtain ⟨otherRow, inRest, read⟩ := exists_mem_of_forall₂ others isLater
      have otherName := named read
      rw [sameName] at otherName
      exact distinct.1 otherRow inRest _ (named first) otherName

namespace Comparison

/-- The comparison of runs that succeed or fail alike, whatever they do. -/
def lenient : Comparison (List Request) where
  records _ _ := True
  errors _ _ := True
  sameRecord _ := trivial
  sameError _ := trivial
  append _ _ := trivial

end Comparison

namespace Inquiry

open Comparison

variable {replies otherReplies :
    CatalogQuery → List String → Except DriverError (List Row)}
  {execution otherExecution : String → Except DriverError Unit} {α β : Type}

/-- Reordered replies are read as reordered records. -/
theorem relates_listOf_of_reordered {form : List Row → Prop}
    {query : CatalogQuery} {parameters : List String}
    (read : Row → Except DriverError α)
    (reordered : Reordered form (replies query parameters)
      (otherReplies query parameters)) :
    lenient.Relates (.scripted replies execution)
      (.scripted otherReplies otherExecution)
      (fun records others => records.Perm others ∧
        ∃ rows, form rows ∧ rows.mapM read = .ok records)
      (listOf read query parameters) (listOf read query parameters) := by
  intro before other _ _ _
  refine ⟨?_, trivial⟩
  rw [listOf_eq_asking, asking, asking, Connection.scripted,
    Connection.scripted]
  dsimp only
  generalize replies query parameters = reply,
    otherReplies query parameters = otherReply at reordered ⊢
  cases reordered with
  | refused cause => exact .errors trivial
  | @rows rows others perm formed =>
      rcases mapM_perm read perm with
        ⟨cause, other, failed, otherFailed⟩ |
        ⟨records, otherRecords, run, otherRun, perm⟩
      · show lenient.Outcomes _ (liftDriver (rows.mapM read))
          (liftDriver (others.mapM read))
        rw [failed, otherFailed]
        exact .errors trivial
      · show lenient.Outcomes _ (liftDriver (rows.mapM read))
          (liftDriver (others.mapM read))
        rw [run, otherRun]
        exact .values ⟨perm, rows, formed, run⟩

/-- What an inquiry finds when it is the first. -/
def finding (inquiry : Inquiry α) (connection : Connection) : Except Error α :=
  (inquiry connection []).1

/-- An inquiry finds the same whenever a connection is asked. -/
def Steady (inquiry : Inquiry α) (connection : Connection) : Prop :=
  ∀ before, (inquiry connection before).1 = inquiry.finding connection

/-- Over a scripted connection it does not matter when an inquiry is made. -/
theorem Reads.anytime {engine : Engine} {topics : Topic → Prop}
    {inquiry : Inquiry α} (reads : inquiry.Reads engine topics)
    (before other : List Request) :
    inquiry (.scripted replies execution) before =
      inquiry (.scripted replies execution) other := by
  induction reads generalizing before other with
  | known outcome => rfl
  | asking parameters _ _ => rfl
  | bind _ _ ihFirst ihNext =>
      exact Recorded.bind_congr (ihFirst before other) fun _ _ =>
        ihNext _ _ _

/-- Over a scripted connection every inquiry of the library is steady. -/
theorem Reads.steady {engine : Engine} {topics : Topic → Prop}
    {inquiry : Inquiry α} (reads : inquiry.Reads engine topics) :
    inquiry.Steady (.scripted replies execution) :=
  fun before => congrArg Prod.fst (reads.anytime before [])

private theorem mapM_apply_of_steady {connection : Connection}
    {step : α → Inquiry β}
    (steady : ∀ item, (step item).Steady connection) (items : List α)
    (before : List Request) :
    (items.mapM step connection before).1 =
      items.mapM fun item => (step item).finding connection := by
  induction items generalizing before with
  | nil => rfl
  | cons item rest ih =>
      rw [List.mapM_cons (m := Except Error)]
      cases run : step item connection before with
      | mk found asked =>
          have first := steady item before
          rw [run] at first
          rw [← first]
          cases found with
          | error cause =>
              rw [Recorded.mapM_cons_of_error run]
              rfl
          | ok value =>
              rw [Recorded.mapM_cons_of_ok run, ih]
              cases rest.mapM fun item => (step item).finding connection <;> rfl

/-- Inquiries for the items of a list can be made in any order of the items,
over scripted connections that give the same answers about their topics. -/
theorem relates_mapM_of_perm {engine : Engine} {topics : Topic → Prop}
    {step : α → Inquiry β} (reads : ∀ item, (step item).Reads engine topics)
    (same : ∀ {query : CatalogQuery}, topics query.topic → ∀ parameters,
      replies query parameters = otherReplies query parameters)
    {items others : List α} (perm : items.Perm others) :
    lenient.Relates (.scripted replies execution)
      (.scripted otherReplies otherExecution)
      (fun values more => values.Perm more ∧
        List.Forall₂ (fun item value =>
          (step item).Returns (.scripted replies execution) value) items values)
      (items.mapM step) (others.mapM step) := by
  intro before other _ _ _
  refine ⟨?_, trivial⟩
  have sameFinding : ∀ item,
      (step item).finding (.scripted otherReplies otherExecution) =
        (step item).finding (.scripted replies execution) := by
    intro item
    have sameAnswers : ∀ (history : List Request) query parameters,
        topics query.topic →
        (Connection.scripted otherReplies otherExecution).query history query
            parameters =
          (Connection.scripted replies execution).query history query
            parameters :=
      fun _ _ parameters about => (same about parameters).symm
    rw [finding, (reads item).congr sameAnswers, finding]
  rw [mapM_apply_of_steady (fun item => (reads item).steady) items before,
    mapM_apply_of_steady (fun item => (reads item).steady) others other,
    funext sameFinding]
  rcases mapM_perm
    (fun item => (step item).finding (.scripted replies execution))
      perm with
    ⟨cause, otherCause, failed, otherFailed⟩ | ⟨values, more, run, otherRun,
      perm⟩
  · rw [failed, otherFailed]
    exact .errors trivial
  · rw [run, otherRun]
    refine .values ⟨perm, (forall₂_of_mapM_eq_ok run).imp ?_⟩
    intro item value succeeded
    exact ⟨[], succeeded⟩

end Inquiry

end SchemaAtlas
