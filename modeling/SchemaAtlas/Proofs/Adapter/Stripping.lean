import SchemaAtlas.Proofs.Adapter.Annotations
import SchemaAtlas.Proofs.Typing.JsonColumns

/-!
# Stripping moves annotations and loses nothing

A line without annotations stays as it is and gets an empty comment.  From any
other line the first annotation is cut out and becomes the comment, so that the
line can be put together again from the two (`strips_iff`).  Lines and comments
keep their numbers, and the comment that belongs to no line keeps its text.
-/

namespace SchemaAtlas

namespace PostgreSql

variable {line stripped comment : String} {lines comments : List String}
  {text before cast after : List Char}

/-- How stripping takes a line apart into a line and a comment on it. -/
inductive Strips (line : String) : (stripped comment : String) → Prop where
  | free : IsFree line.toList → Strips line line ""
  | cut {before cast after : List Char} :
      IsFirstCast line.toList before cast after →
      Strips line (String.ofList (before ++ after)) (String.ofList cast)

theorem IsFirstCast.not_isFree
    (first : IsFirstCast text before cast after) : ¬IsFree text :=
  fun free => free cast ⟨before, after, first.shape.symm⟩ first.isCast

theorem IsFirstCast.unique {otherBefore other otherAfter : List Char}
    (first : IsFirstCast text before cast after)
    (second : IsFirstCast text otherBefore other otherAfter) :
    before = otherBefore ∧ cast = other ∧ after = otherAfter := by
  have place : before.length = otherBefore.length :=
    Nat.le_antisymm (first.leftmost second.shape second.isCast)
      (second.leftmost first.shape first.isCast)
  have shape := first.shape.symm.trans second.shape
  rw [List.append_assoc, List.append_assoc] at shape
  obtain ⟨rfl, behind⟩ := List.append_inj shape place
  have extent : cast.length = other.length :=
    Nat.le_antisymm (second.longest first.shape first.isCast)
      (first.longest second.shape second.isCast)
  obtain ⟨rfl, rfl⟩ := List.append_inj behind extent
  exact ⟨rfl, rfl, rfl⟩

theorem stripLine_of_isFree (free : IsFree line.toList) :
    stripLine line = (line, "") := by
  rw [stripLine, find?_annotation_eq_none_iff.mpr free]

theorem stripLine_of_isFirstCast
    (first : IsFirstCast line.toList before cast after) :
    stripLine line = (String.ofList (before ++ after), String.ofList cast) := by
  cases searched : annotation.find? line.toList with
  | none =>
      exact absurd (find?_annotation_eq_none_iff.mp searched) first.not_isFree
  | some found =>
      obtain ⟨rfl, rfl, rfl⟩ := first.unique (isFirstCast_of_find? searched)
      rw [stripLine, searched]

theorem strips_stripLine (line : String) :
    Strips line (stripLine line).1 (stripLine line).2 := by
  rw [stripLine]
  split
  next searched => exact .cut (isFirstCast_of_find? searched)
  next searched => exact .free (find?_annotation_eq_none_iff.mp searched)

theorem strips_iff :
    Strips line stripped comment ↔ stripLine line = (stripped, comment) := by
  constructor
  · intro strips
    cases strips with
    | free free => exact stripLine_of_isFree free
    | cut first => exact stripLine_of_isFirstCast first
  · intro done
    have strips := strips_stripLine line
    rwa [done] at strips

/-! ## Lines and comments -/

theorem overwrite_eq {annotations comments : List String}
    (same : annotations.length = comments.length) :
    overwrite annotations comments = annotations := by
  induction annotations generalizing comments with
  | nil =>
      obtain rfl := List.length_eq_zero_iff.mp same.symm
      rfl
  | cons first others ih =>
      cases comments with
      | nil => cases same
      | cons comment comments => rw [overwrite, ih (Nat.succ.inj same)]

/-- Stripping keeps the number of lines and comments and the first comment, and
it takes each other comment from its line. -/
structure IsLossless (lines comments stripped moved : List String) : Prop where
  length_lines : stripped.length = lines.length
  length_comments : moved.length = comments.length
  first_comment : moved.head? = comments.head?
  strips : ∀ {i line}, lines[i]? = some line → ∃ rest comment,
    stripped[i]? = some rest ∧ moved[i + 1]? = some comment ∧
      Strips line rest comment

theorem isLossless_stripQuery (slots : comments.length = lines.length + 1) :
    IsLossless lines comments (stripQuery lines comments).1
      (stripQuery lines comments).2 := by
  obtain ⟨first, others, rfl⟩ := List.exists_cons_of_length_eq_add_one slots
  have moved : overwrite ((lines.map stripLine).map Prod.snd) others =
      (lines.map stripLine).map Prod.snd :=
    overwrite_eq (by simpa using (Nat.succ.inj slots).symm)
  rw [stripQuery, moved]
  exact {
    length_lines := by simp
    length_comments := by simpa using slots.symm
    first_comment := rfl
    strips := by
      intro i line found
      refine ⟨(stripLine line).1, (stripLine line).2, ?_, ?_,
        strips_stripLine line⟩
      · simp [found]
      · simp [found] }

end PostgreSql

namespace TypedQuery

open Recorded

/-- Every engine leaves a comment for each line and one more. -/
theorem length_stripQuery (engine : Engine) {lines comments : List String}
    (slots : comments.length = lines.length + 1) :
    ((Adapter.builtin engine).stripQuery lines comments).2.length =
      ((Adapter.builtin engine).stripQuery lines comments).1.length + 1 := by
  have lossless := PostgreSql.isLossless_stripQuery slots
  have moved : (PostgreSql.stripQuery lines comments).2.length =
      (PostgreSql.stripQuery lines comments).1.length + 1 := by
    rw [lossless.length_comments, lossless.length_lines, slots]
  cases engine with
  | postgresql => exact moved
  | cockroachdb => exact moved
  | mysql => exact slots
  | oracle => exact slots
  | sqlite => exact slots

private theorem length_annotatedLines (engine : Engine) (spec : QuerySpec)
    (statement : String) :
    (annotatedLines (Adapter.builtin engine) spec statement).2.length =
      (annotatedLines (Adapter.builtin engine) spec statement).1.length +
      1 := by
  have slots : (List.replicate ((lines spec.trim statement).length + 1)
      "").length =
      (lines spec.trim statement).length + 1 :=
    List.length_replicate
  rw [annotatedLines]
  split
  next => exact length_stripQuery engine slots
  next => exact slots

private theorem annotated_of_returns_introspect {adapter : Adapter}
    {options : Options}
    {spec : QuerySpec} {surroundings : Surroundings} {query : TypedQuery}
    (returns : (introspect adapter options spec).Returns surroundings query) :
    ∃ statement, (query.statement, query.comments) =
      annotatedLines adapter spec statement := by
  obtain ⟨template, _, returns⟩ := returns_of_bind returns
  obtain ⟨schema, _, returns⟩ := returns_of_bind returns
  obtain ⟨found, asked, returns⟩ := returns_of_bind returns
  rw [eq_of_returns_pure returns]
  exact ⟨_, rfl⟩

/-- Over PostgreSQL and CockroachDB stripping moves the first annotation of
every line into the comment on the line and changes nothing else.  A query of
any engine has one comment more than lines, however it is read. -/
theorem stripping_isLossless :
    (∀ (engine : Engine) (lines comments : List String), engine.SpeaksPostgres →
      comments.length = lines.length + 1 →
      PostgreSql.IsLossless lines comments
        ((Adapter.builtin engine).stripQuery lines comments).1
        ((Adapter.builtin engine).stripQuery lines comments).2) ∧
    ∀ engine options spec surroundings before query,
      (introspect (Adapter.builtin engine) options spec surroundings before).1 =
        .ok query →
      query.comments.length = query.statement.length + 1 := by
  constructor
  · intro engine lines comments speaks slots
    have strips : (Adapter.builtin engine).stripQuery =
        PostgreSql.stripQuery := by
      rcases speaks with rfl | rfl <;> rfl
    rw [strips]
    exact PostgreSql.isLossless_stripQuery slots
  · intro engine options spec surroundings before query introspected
    obtain ⟨statement, annotated⟩ :=
      annotated_of_returns_introspect ⟨before, introspected⟩
    have slots := length_annotatedLines engine spec statement
    rwa [← annotated] at slots

/-- A query whose first line is annotated. -/
def annotatedQuery : QuerySpec :=
  { GraphBuilder.entryQuery with
    statement := "select e.payload::jsonb AS body,\n  e.date from entry e"
    trim := true
    strip := true }

/-- The cast of an annotated line is moved into the comment on it, and a query
with such a line keeps a comment for each line. -/
theorem stripping_isLossless_annotatedQuery :
    (["SELECT a.id::integer AS id,", "a.name"].length + 1 =
      ["", "", ""].length ∧ (Adapter.builtin .cockroachdb).stripQuery
        ["SELECT a.id::integer AS id,", "a.name"] ["", "", ""] =
          (["SELECT a.id,", "a.name"], ["", "::integer AS id", ""]) ∧
      PostgreSql.IsLossless ["SELECT a.id::integer AS id,", "a.name"]
      ["", "", ""]
        ["SELECT a.id,", "a.name"] ["", "::integer AS id", ""]) ∧
    ∃ query,
      (introspect (.builtin .postgresql) GraphBuilder.byColumn annotatedQuery
        GraphBuilder.ledger Journal.none).1 = .ok query ∧
      query.statement = ["select e.payload, ", "e.date from entry e"] ∧
      query.comments.length = 3 := by
  obtain ⟨ofLines, ofQuery⟩ := stripping_isLossless
  constructor
  · have slots : ["", "", ""].length =
        ["SELECT a.id::integer AS id,", "a.name"].length + 1 := rfl
    have stripped : (Adapter.builtin .cockroachdb).stripQuery
        ["SELECT a.id::integer AS id,", "a.name"] ["", "", ""] =
          (["SELECT a.id,", "a.name"], ["", "::integer AS id", ""]) := by
      decide +kernel
    have lossless := ofLines .cockroachdb _ _ (.inr rfl) slots
    rw [stripped] at lossless
    exact ⟨slots.symm, stripped, lossless⟩
  · obtain ⟨query, introspected, lines⟩ := exists_ok_of_view
      (show ((introspect (.builtin .postgresql) GraphBuilder.byColumn
          annotatedQuery GraphBuilder.ledger Journal.none).1.toOption.map
          TypedQuery.statement) =
        some ["select e.payload, ", "e.date from entry e"] by decide +kernel)
    refine ⟨query, introspected, lines, ?_⟩
    rw [ofQuery _ _ _ _ _ query introspected, lines]
    rfl

end TypedQuery

end SchemaAtlas
