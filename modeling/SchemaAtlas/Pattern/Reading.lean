import SchemaAtlas.Pattern

/-!
# What a match reads

Whatever way a pattern matches, it reads one piece of the text and leaves the
rest behind it as it was.
-/

namespace SchemaAtlas

namespace Pattern

/-- A run reads a piece of the text that it is given. -/
def Reads (before rest : List Char) (run : Run) (piece : List Char) : Prop :=
  rest = piece ++ run.rest ∧ run.before = piece.reverse ++ before

theorem reads_of_mem_manyRuns {accepts : Char → Bool}
    {before rest : List Char} {run : Run}
    (member : run ∈ manyRuns accepts before rest) :
    ∃ piece, Reads before rest run piece := by
  induction rest generalizing before with
  | nil => simp [manyRuns] at member
  | cons c rest ih =>
      rw [manyRuns] at member
      split at member
      next =>
        rcases List.mem_append.mp member with longer | shortest
        · obtain ⟨piece, behind, ahead⟩ := ih longer
          exact ⟨c :: piece, by simp [← behind], by simp [ahead]⟩
        · obtain rfl := List.mem_singleton.mp shortest
          exact ⟨[c], rfl, rfl⟩
      next => simp at member

/-- Every way to match reads a piece at the beginning of the text. -/
theorem reads_of_mem_runs {pattern : Pattern} {before rest : List Char}
    {run : Run} (member : run ∈ pattern.runs before rest) :
    ∃ piece, Reads before rest run piece := by
  induction pattern generalizing before rest run with
  | empty =>
      obtain rfl := List.mem_singleton.mp member
      exact ⟨[], rfl, rfl⟩
  | never => simp [runs] at member
  | one accepts =>
      cases rest with
      | nil => simp [runs] at member
      | cons c rest =>
          simp only [runs] at member
          split at member
          next =>
            obtain rfl := List.mem_singleton.mp member
            exact ⟨[c], rfl, rfl⟩
          next => simp at member
  | many accepts => exact reads_of_mem_manyRuns member
  | start =>
      simp only [runs] at member
      split at member
      next =>
        obtain rfl := List.mem_singleton.mp member
        exact ⟨[], rfl, rfl⟩
      next => simp at member
  | finish =>
      simp only [runs] at member
      split at member
      next =>
        obtain rfl := List.mem_singleton.mp member
        exact ⟨[], rfl, rfl⟩
      next => simp at member
  | wordEdge =>
      simp only [runs] at member
      split at member
      next => simp at member
      next =>
        obtain rfl := List.mem_singleton.mp member
        exact ⟨[], rfl, rfl⟩
  | inRow first second firstReads secondReads =>
      simp only [runs, List.mem_flatMap, List.mem_map] at member
      obtain ⟨opening, opened, closing, closed, rfl⟩ := member
      obtain ⟨piece, behind, ahead⟩ := firstReads opened
      obtain ⟨more, behindMore, aheadMore⟩ := secondReads closed
      exact ⟨piece ++ more, by simp [behind, behindMore],
        by simp [aheadMore, ahead]⟩
  | either first second firstReads secondReads =>
      rcases List.mem_append.mp member with early | late
      · exact firstReads early
      · exact secondReads late
  | group inner innerReads =>
      simp only [runs, List.mem_map] at member
      obtain ⟨innerRun, matched, rfl⟩ := member
      obtain ⟨piece, behind, ahead⟩ := innerReads matched
      exact ⟨piece, behind, ahead⟩

end Pattern
end SchemaAtlas
