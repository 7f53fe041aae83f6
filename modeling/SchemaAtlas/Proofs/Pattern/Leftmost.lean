import Mathlib.Data.List.Basic
import SchemaAtlas.Proofs.Pattern.Matching

/-!
# Leftmost and longest matches

A search finds a match at the first place that has one.  Among the matches at
that place it takes the first run, which is the longest where no run goes on for
longer than an earlier one (`LongestFirst`).  That holds of a pattern in a row
of literal texts and repetitions if no repetition can go on into what follows
it.
-/

namespace SchemaAtlas

namespace Pattern

variable {accepts refused : Char → Bool} {pattern first second third : Pattern}
  {before piece rest : List Char}

/-! ## Patterns whose runs come the longest first -/

/-- No run of a pattern reads more than an earlier one. -/
def LongestFirst (pattern : Pattern) : Prop :=
  ∀ before rest, (pattern.runs before rest).Pairwise fun early late =>
    early.rest.length ≤ late.rest.length

/-- A pattern matches in at most one way. -/
def Determinate (pattern : Pattern) : Prop :=
  ∀ before rest, (pattern.runs before rest).length ≤ 1

/-- A pattern matches no text that begins with one of some characters. -/
def Refuses (pattern : Pattern) (refused : Char → Bool) : Prop :=
  ∀ before c rest, refused c = true → pattern.runs before (c :: rest) = []

theorem determinate_empty : Determinate .empty := fun _ _ => Nat.le_refl 1

theorem determinate_one : Determinate (.one accepts) := by
  intro before rest
  cases rest with
  | nil => exact Nat.zero_le 1
  | cons c rest =>
      rw [runs]
      split <;> simp

theorem Determinate.runs_eq (one : Determinate pattern)
    (before rest : List Char) :
    pattern.runs before rest = [] ∨ ∃ run, pattern.runs before rest =
      [run] := by
  rcases Nat.le_one_iff_eq_zero_or_eq_one.mp
    (one before rest) with none | single
  · exact .inl (List.length_eq_zero_iff.mp none)
  · exact .inr (List.length_eq_one_iff.mp single)

theorem Determinate.inRow (one : Determinate first)
    (other : Determinate second) : Determinate (.inRow first second) := by
  intro before rest
  rw [runs]
  rcases one.runs_eq before rest with none | ⟨opening, opened⟩
  · simp [none]
  · simpa [opened] using other opening.before opening.rest

theorem determinate_ofString (text : String) : Determinate (ofString text) := by
  rw [ofString]
  induction text.toList with
  | nil => exact determinate_empty
  | cons c rest ih => exact determinate_one.inRow ih

theorem runs_inRow_inRow :
    (inRow (.inRow first second) third).runs before rest =
      (inRow first (.inRow second third)).runs before rest := by
  simp only [runs, List.flatMap_assoc, List.flatMap_map, List.map_flatMap,
    List.map_map, Function.comp_def, List.append_assoc]

theorem longestFirst_inRow_inRow
    (nested : LongestFirst (.inRow first (.inRow second third))) :
    LongestFirst (.inRow (.inRow first second) third) := by
  intro before rest
  rw [runs_inRow_inRow]
  exact nested before rest

theorem Determinate.longestFirst_inRow (one : Determinate first)
    (longest : LongestFirst second) : LongestFirst (.inRow first second) := by
  intro before rest
  rw [runs]
  rcases one.runs_eq before rest with none | ⟨opening, opened⟩
  · simp [none]
  · simpa [opened, List.pairwise_map] using
      longest opening.before opening.rest

theorem pairwise_manyRuns :
    (manyRuns accepts before rest).Pairwise fun early late =>
      early.rest.length ≤ late.rest.length := by
  induction rest generalizing before with
  | nil => exact .nil
  | cons c rest ih =>
      rw [manyRuns]
      split
      next =>
        refine List.pairwise_append.mpr ⟨ih, List.pairwise_singleton _ _, ?_⟩
        intro longer member shortest isShortest
        obtain ⟨piece, behind, -⟩ := reads_of_mem_manyRuns member
        obtain rfl := List.mem_singleton.mp isShortest
        simp [behind]
      next => exact .nil

theorem longestFirst_many : LongestFirst (.many accepts) :=
  fun _ _ => pairwise_manyRuns

/-- What refuses the characters that are repeated goes on behind the longest
repetition only. -/
theorem Refuses.longestFirst_many_inRow (refuses : Refuses second accepts)
    (longest : LongestFirst second) :
    LongestFirst (.inRow (.many accepts) second) := by
  intro before rest
  rw [runs, runs]
  induction rest generalizing before with
  | nil => exact .nil
  | cons c rest ih =>
      rw [manyRuns]
      split
      next =>
        -- Behind `c` there is either more to repeat, which the second pattern
        -- refuses, or nothing, so that only one of the two parts has runs.
        rw [List.flatMap_append]
        cases rest with
        | nil =>
            simpa [manyRuns, List.pairwise_map] using longest (c :: before) []
        | cons d rest =>
            by_cases goesOn : accepts d = true
            · have stops := refuses (c :: before) d rest goesOn
              simpa [stops] using ih (c :: before)
            · simpa [manyRuns, goesOn, List.pairwise_map] using
                longest (c :: before) (d :: rest)
      next => exact .nil

theorem refuses_one (disjoint : ∀ c, refused c = true → accepts c = false) :
    Refuses (.one accepts) refused := by
  intro before c rest isRefused
  simp [runs, disjoint c isRefused]

theorem refuses_many (disjoint : ∀ c, refused c = true → accepts c = false) :
    Refuses (.many accepts) refused := by
  intro before c rest isRefused
  simp [runs, manyRuns, disjoint c isRefused]

theorem Refuses.inRow (refuses : Refuses first refused) :
    Refuses (.inRow first second) refused := by
  intro before c rest isRefused
  rw [runs, refuses before c rest isRefused, List.flatMap_nil]

/-! ## What a search finds -/

/-- A match at the first place of a text that has one, as long as any match
there.  The text stands behind the reversed text `before`. -/
structure IsLeftmost (pattern : Pattern)
    (before text ahead matched after : List Char) : Prop where
  shape : text = ahead ++ matched ++ after
  isMatch : Matches pattern (ahead.reverse ++ before) matched after
  leftmost : ∀ {front piece back}, text = front ++ piece ++ back →
    Matches pattern (front.reverse ++ before) piece back →
    ahead.length ≤ front.length
  longest : ∀ {piece back}, text = ahead ++ piece ++ back →
    Matches pattern (ahead.reverse ++ before) piece back →
    piece.length ≤ matched.length

theorem isLeftmost_of_runs {run : Run} {others : List Run}
    (longestFirst : LongestFirst pattern)
    (tried : pattern.runs before rest = run :: others) :
    IsLeftmost pattern before rest []
      (rest.take (rest.length - run.rest.length)) run.rest := by
  have first : run ∈ pattern.runs before rest := tried ▸ List.mem_cons_self
  obtain ⟨piece, behind, -⟩ := reads_of_mem_runs first
  have read : rest.take (rest.length - run.rest.length) = piece := by
    rw [behind, List.length_append, Nat.add_sub_cancel, List.take_left]
  rw [read]
  refine ⟨behind, matches_of_mem_runs first behind, fun _ _ => Nat.zero_le _,
    ?_⟩
  intro other back shape matched
  change rest = other ++ back at shape
  change Matches pattern before other back at matched
  obtain ⟨otherRun, member, rfl⟩ := matched.exists_run
  rw [← shape, tried] at member
  have ordered := longestFirst before rest
  rw [tried, List.pairwise_cons] at ordered
  have shorter : run.rest.length ≤ otherRun.rest.length := by
    rcases List.mem_cons.mp member with rfl | late
    · exact Nat.le_refl _
    · exact ordered.1 otherRun late
  have lengths := congrArg List.length (behind.symm.trans shape)
  simp only [List.length_append] at lengths
  omega

theorem IsLeftmost.cons {c : Char} {ahead matched after : List Char}
    (tried : pattern.runs before (c :: rest) = [])
    (found : IsLeftmost pattern (c :: before) rest ahead matched after) :
    IsLeftmost pattern before (c :: rest) (c :: ahead) matched after where
  shape := by simp [found.shape]
  isMatch := by simpa using found.isMatch
  leftmost := by
    intro front piece back shape matched
    cases front with
    | nil => exact absurd matched (runs_eq_nil_iff.mp tried piece back shape)
    | cons d front =>
        simp only [List.cons_append, List.cons.injEq] at shape
        obtain ⟨rfl, shape⟩ := shape
        exact Nat.succ_le_succ
          (found.leftmost shape (by simpa using matched))
  longest := by
    intro piece back shape matched
    exact found.longest (List.cons_eq_cons.mp shape).2 (by simpa using matched)

private theorem isLeftmost_of_findFrom? (longestFirst : LongestFirst pattern)
    {found : Found} (searched : pattern.findFrom? before rest = some found) :
    ∃ ahead, found.before = before.reverse ++ ahead ∧
      IsLeftmost pattern before rest ahead found.matched found.after := by
  induction rest generalizing before with
  | nil =>
      rw [findFrom?] at searched
      split at searched
      next tried =>
        obtain rfl := Option.some.inj searched
        exact ⟨[], by simp, isLeftmost_of_runs longestFirst tried⟩
      next => cases searched
  | cons c rest ih =>
      rw [findFrom?] at searched
      split at searched
      next tried =>
        obtain rfl := Option.some.inj searched
        exact ⟨[], by simp, isLeftmost_of_runs longestFirst tried⟩
      next tried =>
        obtain ⟨ahead, stands, found⟩ := ih searched
        exact ⟨c :: ahead, by simp [stands], found.cons tried⟩

/-- A search takes the leftmost match, and of the matches there the longest. -/
theorem isLeftmost_of_find? (longestFirst : LongestFirst pattern)
    {text : List Char} {found : Found}
    (searched : pattern.find? text = some found) :
    IsLeftmost pattern [] text found.before found.matched found.after := by
  obtain ⟨ahead, stands, isLeftmost⟩ :=
    isLeftmost_of_findFrom? longestFirst searched
  rw [stands]
  exact isLeftmost

end Pattern
end SchemaAtlas
