import Mathlib.Data.List.Infix
import Mathlib.Logic.Function.Iterate
import SchemaAtlas.Proofs.Adapter.Stripping

/-!
# What stripping leaves

Stripping takes one annotation from a line.  Others behind it stay, and what
stood before and behind the annotation can together be a new one.  So a line is
free of annotations only if neither is the case (`isFree_restOf_iff`), and
exactly then another pass changes nothing.  As every cut shortens the line,
enough passes leave no annotation at all (`isFree_iterate_restOf`).
-/

namespace SchemaAtlas

namespace PostgreSql

variable {line : String} {lines comments : List String}
  {text before cast after : List Char}

def restOf (line : String) : String :=
  (stripLine line).1

theorem fst_stripQuery : (stripQuery lines comments).1 = lines.map restOf :=
  List.map_map

theorem restOf_eq_self (free : IsFree line.toList) : restOf line = line := by
  rw [restOf, stripLine_of_isFree free]

theorem toList_restOf
    (first : IsFirstCast line.toList before cast after) :
    (restOf line).toList = before ++ after := by
  rw [restOf, stripLine_of_isFirstCast first, String.toList_ofList]

theorem exists_isFirstCast (notFree : ¬IsFree line.toList) :
    ∃ before cast after,
      IsFirstCast line.toList before cast after := by
  cases searched : annotation.find? line.toList with
  | none => exact absurd (find?_annotation_eq_none_iff.mp searched) notFree
  | some found => exact ⟨_, _, _, isFirstCast_of_find? searched⟩

/-! ## One pass -/

/-- An annotation begins before the place where two texts meet and ends behind
it. -/
def Straddles (before after : List Char) : Prop :=
  ∃ front back, front ≠ [] ∧ back ≠ [] ∧ front <:+ before ∧ back <+: after ∧
    IsCast (front ++ back)

theorem isFree_append_iff :
    IsFree (before ++ after) ↔
      IsFree before ∧ IsFree after ∧ ¬Straddles before after := by
  constructor
  · intro free
    refine ⟨fun piece inside => free piece ?_, fun piece inside =>
      free piece ?_, ?_⟩
    · exact List.infix_append_iff.mpr (.inl inside)
    · exact List.infix_append_iff.mpr (.inr (.inl inside))
    · rintro ⟨front, back, -, -, isSuffix, isPrefix, isCast⟩
      exact free _ (List.infix_append_iff.mpr
        (.inr (.inr ⟨front, back, rfl, isSuffix, isPrefix⟩))) isCast
  · rintro ⟨freeBefore, freeAfter, apart⟩ piece inside isCast
    rcases List.infix_append_iff.mp inside with
      inBefore | inAfter | ⟨front, back, rfl, isSuffix, isPrefix⟩
    · exact freeBefore piece inBefore isCast
    · exact freeAfter piece inAfter isCast
    · by_cases noFront : front = []
      · subst noFront
        exact freeAfter _ isPrefix.isInfix isCast
      · by_cases noBack : back = []
        · subst noBack
          rw [List.append_nil] at isCast
          exact freeBefore _ isSuffix.isInfix isCast
        · exact apart ⟨front, back, noFront, noBack, isSuffix, isPrefix,
            isCast⟩

theorem IsName.length_le (isName : IsName text) : 2 ≤ text.length := by
  obtain ⟨_, some, _⟩ := isName
  have longer := List.length_pos_iff.mpr some
  simp only [List.length_cons]
  omega

/-- The shortest annotations are those like `::xx as yy`. -/
theorem IsCast.length_le (isCast : IsCast text) :
    10 ≤ text.length := by
  obtain ⟨isType, ⟨someGap, _⟩, ⟨_, _⟩, ⟨someSpace, _⟩, isName⟩ := isCast
  have type := isType.length_le
  have gap := List.length_pos_iff.mpr someGap
  have space := List.length_pos_iff.mpr someSpace
  have name := isName.length_le
  simp only [List.length_append, List.length_cons, List.length_nil]
  omega

theorem IsFirstCast.isFree_before
    (first : IsFirstCast text before cast after) : IsFree before := by
  rintro piece ⟨front, back, rfl⟩ isCast
  have shape : text = front ++ piece ++ (back ++ cast ++ after) := by
    simp [first.shape]
  have early := first.leftmost shape isCast
  have long := isCast.length_le
  simp only [List.length_append] at early
  omega

/-- A pass frees a line of annotations if there is none behind the first, and
cutting that one out does not make another. -/
theorem isFree_restOf_iff :
    IsFree (restOf line).toList ↔
      ∀ {before cast after},
        IsFirstCast line.toList before cast after →
        IsFree after ∧ ¬Straddles before after := by
  by_cases free : IsFree line.toList
  · rw [restOf_eq_self free]
    exact ⟨fun _ _ _ _ first => absurd free first.not_isFree, fun _ => free⟩
  · obtain ⟨before, cast, after, first⟩ := exists_isFirstCast free
    rw [toList_restOf first, isFree_append_iff]
    constructor
    · rintro ⟨-, freeAfter, apart⟩ _ _ _ other
      obtain ⟨rfl, rfl, rfl⟩ := first.unique other
      exact ⟨freeAfter, apart⟩
    · intro clean
      exact ⟨first.isFree_before, clean first⟩

/-! ## Further passes -/

/-- A pass over a line with annotations takes ten characters or more. -/
theorem length_restOf_le (notFree : ¬IsFree line.toList) :
    (restOf line).length + 10 ≤ line.length := by
  obtain ⟨before, cast, after, first⟩ := exists_isFirstCast notFree
  have long := first.isCast.length_le
  rw [← String.length_toList, toList_restOf first, ← String.length_toList,
    first.shape]
  simp only [List.length_append]
  omega

theorem restOf_eq_self_iff : restOf line = line ↔ IsFree line.toList := by
  constructor
  · intro same
    by_contra notFree
    have shorter := length_restOf_le notFree
    rw [same] at shorter
    omega
  · exact restOf_eq_self

theorem map_restOf_eq_self_iff :
    lines.map restOf = lines ↔ ∀ line ∈ lines, IsFree line.toList := by
  conv_lhs => rhs; rw [← List.map_id lines]
  rw [List.map_inj_left]
  exact forall₂_congr fun _ _ => restOf_eq_self_iff

private theorem isFree_of_length_lt (short : text.length < 10) :
    IsFree text := by
  intro piece inside isCast
  have long := isCast.length_le
  have within := inside.length_le
  omega

theorem isFree_iterate_restOf {n : Nat} (bound : line.length < 10 * (n + 1)) :
    IsFree (restOf^[n] line).toList := by
  induction n generalizing line with
  | zero =>
      rw [← String.length_toList] at bound
      exact isFree_of_length_lt bound
  | succ n ih =>
      by_cases free : IsFree line.toList
      · rwa [Function.iterate_fixed (restOf_eq_self free)]
      · have shorter := length_restOf_le free
        rw [Function.iterate_succ_apply]
        exact ih (by omega)

private theorem iterate_fst_stripQuery (n : Nat) :
    (fun lines => (stripQuery lines comments).1)^[n] lines =
      lines.map restOf^[n] := by
  induction n generalizing lines with
  | zero => exact (List.map_id lines).symm
  | succ n ih =>
      rw [Function.iterate_succ_apply, ih, fst_stripQuery, List.map_map,
        Function.iterate_succ]

/-- A pass leaves no annotation exactly where no line has another behind its
first one or gets one by the cut, and exactly then a second pass changes
nothing.  After some passes, as many as the lines have tens of characters, no
annotation is left. -/
theorem stripping_isComplete_iff (lines comments others : List String) :
    ((∀ line ∈ (stripQuery lines comments).1, IsFree line.toList) ↔
      ∀ line ∈ lines, ∀ {before cast after},
        IsFirstCast line.toList before cast after →
        IsFree after ∧ ¬Straddles before after) ∧
    ((stripQuery (stripQuery lines comments).1 others).1 =
        (stripQuery lines comments).1 ↔
      ∀ line ∈ (stripQuery lines comments).1, IsFree line.toList) ∧
    ∀ n, (∀ line ∈ lines, line.length < 10 * (n + 1)) →
      ∀ line ∈ (fun lines => (stripQuery lines comments).1)^[n] lines,
        IsFree line.toList := by
  refine ⟨?_, ?_, fun n bound => ?_⟩
  · rw [fst_stripQuery, List.forall_mem_map]
    exact forall₂_congr fun _ _ => isFree_restOf_iff
  · rw [fst_stripQuery]
    exact map_restOf_eq_self_iff
  · rw [iterate_fst_stripQuery, List.forall_mem_map]
    intro line isLine
    exact isFree_iterate_restOf (bound line isLine)

/-- A line that lists two annotated columns. -/
def twoColumns : String :=
  "SELECT a.id::integer AS id, a.name::text AS name"

/-- Nothing is left of the annotation in a line with one annotated column, and
after four passes nothing in a line with two. -/
theorem stripping_isComplete_iff_columns :
    (∃ before cast after, IsFirstCast
        "SELECT a.id::integer AS id,".toList before cast after ∧
      IsFree after ∧ ¬Straddles before after) ∧
    (∀ line ∈ [twoColumns], line.length < 10 * (4 + 1)) ∧
    ∀ line ∈ (fun lines => (stripQuery lines ["", ""]).1)^[4] [twoColumns],
      IsFree line.toList := by
  obtain ⟨onePass, -, -⟩ :=
    stripping_isComplete_iff ["SELECT a.id::integer AS id,"] ["", ""] []
  obtain ⟨-, -, passes⟩ := stripping_isComplete_iff [twoColumns] ["", ""] []
  have short : ∀ line ∈ [twoColumns], line.length < 10 * (4 + 1) := by
    decide +kernel
  refine ⟨?_, short, passes 4 short⟩
  have annotated : ¬IsFree "SELECT a.id::integer AS id,".toList := by
    decide +kernel
  obtain ⟨before, cast, after, first⟩ :=
    exists_isFirstCast annotated
  exact ⟨before, cast, after, first,
    onePass.mp (by decide +kernel) _ List.mem_cons_self first⟩

/-- The annotation of the second column stays in the line, and another pass goes
on. -/
theorem stripping_misses_secondColumn :
    (stripQuery [twoColumns] ["", ""]).1 =
    ["SELECT a.id, a.name::text AS name"] ∧
    ¬(∀ line ∈ (stripQuery [twoColumns] ["", ""]).1, IsFree line.toList) ∧
    (stripQuery (stripQuery [twoColumns] ["", ""]).1 ["", ""]).1 ≠
      (stripQuery [twoColumns] ["", ""]).1 := by
  decide +kernel

/-- What stands around an annotation can be another one without it. -/
example : restOf "a.id::int::text AS xx AS yy" = "a.id::int AS yy" ∧
    ¬IsFree (restOf "a.id::int::text AS xx AS yy").toList := by
  decide +kernel

end PostgreSql
end SchemaAtlas
