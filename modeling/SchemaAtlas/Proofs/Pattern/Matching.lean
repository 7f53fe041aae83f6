import SchemaAtlas.Pattern.Reading

/-!
# Relational specification of matching

`Matches` says which pieces of a text a pattern matches, without an order among
them.  The runs of a pattern are exactly the ways to match (`exists_run_iff`),
so a search that finds nothing has nothing to find (`findFrom?_eq_none_iff`).
-/

namespace SchemaAtlas

namespace Pattern

variable {accepts : Char → Bool} {pattern first second third : Pattern}
  {before piece after rest : List Char}

/-- How a pattern matches a piece of a text that stands behind the reversed text
`before` and in front of `after`. -/
inductive Matches : Pattern → (before piece after : List Char) → Prop where
  | empty {before after : List Char} : Matches .empty before [] after
  | one {accepts : Char → Bool} {c : Char} {before after : List Char} :
      accepts c = true → Matches (.one accepts) before [c] after
  | many {accepts : Char → Bool} {before piece after : List Char} :
      piece ≠ [] → (∀ c ∈ piece, accepts c = true) →
      Matches (.many accepts) before piece after
  | start {after : List Char} : Matches .start [] [] after
  | finish {before : List Char} : Matches .finish before [] []
  | wordEdge {before after : List Char} :
      startsInWord before ≠ startsInWord after →
      Matches .wordEdge before [] after
  | inRow {first second : Pattern} {before opening closing after : List Char} :
      Matches first before opening (closing ++ after) →
      Matches second (opening.reverse ++ before) closing after →
      Matches (.inRow first second) before (opening ++ closing) after
  | early {first second : Pattern} {before piece after : List Char} :
      Matches first before piece after →
      Matches (.either first second) before piece after
  | late {first second : Pattern} {before piece after : List Char} :
      Matches second before piece after →
      Matches (.either first second) before piece after
  | group {inner : Pattern} {before piece after : List Char} :
      Matches inner before piece after →
      Matches (.group inner) before piece after

theorem matches_one_iff :
    Matches (.one accepts) before piece after ↔
      ∃ c, piece = [c] ∧ accepts c = true := by
  constructor
  · intro matched
    cases matched with
    | one accepted => exact ⟨_, rfl, accepted⟩
  · rintro ⟨c, rfl, accepted⟩
    exact .one accepted

theorem matches_many_iff :
    Matches (.many accepts) before piece after ↔
      piece ≠ [] ∧ ∀ c ∈ piece, accepts c = true := by
  constructor
  · intro matched
    cases matched with
    | many some accepted => exact ⟨some, accepted⟩
  · rintro ⟨some, accepted⟩
    exact .many some accepted

theorem matches_inRow_iff :
    Matches (.inRow first second) before piece after ↔
      ∃ opening closing, piece = opening ++ closing ∧
        Matches first before opening (closing ++ after) ∧
        Matches second (opening.reverse ++ before) closing after := by
  constructor
  · intro matched
    cases matched with
    | inRow opens closes => exact ⟨_, _, rfl, opens, closes⟩
  · rintro ⟨opening, closing, rfl, opens, closes⟩
    exact .inRow opens closes

theorem matches_append_iff :
    Matches (first ++ second) before piece after ↔
      ∃ opening closing, piece = opening ++ closing ∧
        Matches first before opening (closing ++ after) ∧
        Matches second (opening.reverse ++ before) closing after :=
  matches_inRow_iff

/-! ## The runs of a pattern are its matches -/

private theorem many_of_mem_manyRuns {run : Run}
    (member : run ∈ manyRuns accepts before rest)
    (behind : rest = piece ++ run.rest) :
    piece ≠ [] ∧ ∀ c ∈ piece, accepts c = true := by
  induction rest generalizing before piece with
  | nil => simp [manyRuns] at member
  | cons c rest ih =>
      rw [manyRuns] at member
      split at member
      next accepted =>
        rcases List.mem_append.mp member with longer | shortest
        · obtain ⟨longerPiece, shape, -⟩ := reads_of_mem_manyRuns longer
          obtain ⟨-, allAccepted⟩ := ih longer shape
          have whole : piece = c :: longerPiece := by
            rw [shape, ← List.cons_append] at behind
            exact (List.append_cancel_right behind).symm
          subst whole
          exact ⟨List.cons_ne_nil _ _,
            List.forall_mem_cons.mpr ⟨accepted, allAccepted⟩⟩
        · obtain rfl := List.mem_singleton.mp shortest
          have whole : piece = [c] :=
            (List.append_cancel_right (show [c] ++ rest = piece ++ rest from
              behind)).symm
          subst whole
          exact ⟨List.cons_ne_nil _ _, by simpa using accepted⟩
      next => simp at member

private theorem exists_mem_manyRuns (some : piece ≠ [])
    (accepted : ∀ c ∈ piece, accepts c = true) :
    ∃ run ∈ manyRuns accepts before (piece ++ after), run.rest = after := by
  induction piece generalizing before with
  | nil => exact absurd rfl some
  | cons c piece ih =>
      obtain ⟨acceptsFirst, acceptsRest⟩ := List.forall_mem_cons.mp accepted
      rw [List.cons_append, manyRuns, if_pos acceptsFirst]
      by_cases last : piece = []
      · subst last
        exact ⟨_, List.mem_append_right _ (List.mem_singleton_self _), rfl⟩
      · obtain ⟨run, member, behind⟩ := ih last acceptsRest
        exact ⟨run, List.mem_append_left _ member, behind⟩

/-- A pattern that only looks at the position reads nothing. -/
private theorem of_mem_position {condition : Prop} [Decidable condition]
    {run : Run}
    (member : run ∈ if condition then [⟨before, rest, []⟩] else [])
    (behind : rest = piece ++ run.rest) :
    condition ∧ piece = [] ∧ run.rest = rest := by
  split at member
  next held =>
    obtain rfl := List.mem_singleton.mp member
    exact ⟨held, List.self_eq_append_left.mp behind, rfl⟩
  next => cases member

theorem matches_of_mem_runs {run : Run}
    (member : run ∈ pattern.runs before rest)
    (behind : rest = piece ++ run.rest) :
    Matches pattern before piece run.rest := by
  induction pattern generalizing before rest piece run with
  | empty =>
      obtain rfl := List.mem_singleton.mp member
      obtain rfl : piece = [] := List.self_eq_append_left.mp behind
      exact .empty
  | never => simp [runs] at member
  | one accepts =>
      cases rest with
      | nil => simp [runs] at member
      | cons c rest =>
          simp only [runs] at member
          split at member
          next accepted =>
            obtain rfl := List.mem_singleton.mp member
            obtain rfl : [c] = piece :=
              List.append_cancel_right (show [c] ++ rest = piece ++ rest from
                behind)
            exact .one accepted
          next => simp at member
  | many accepts =>
      obtain ⟨some, accepted⟩ := many_of_mem_manyRuns member behind
      exact .many some accepted
  | start =>
      obtain ⟨none, rfl, -⟩ := of_mem_position member behind
      rw [List.isEmpty_iff.mp none]
      exact .start
  | finish =>
      obtain ⟨none, rfl, same⟩ := of_mem_position member behind
      rw [same, List.isEmpty_iff.mp none]
      exact .finish
  | wordEdge =>
      rw [runs, ← ite_not] at member
      obtain ⟨edge, rfl, same⟩ := of_mem_position member behind
      rw [same]
      exact .wordEdge (by simpa using edge)
  | inRow first second firstMatches secondMatches =>
      simp only [runs, List.mem_flatMap, List.mem_map] at member
      obtain ⟨opening, opened, closing, closed, rfl⟩ := member
      obtain ⟨openingPiece, openingBehind, ahead⟩ := reads_of_mem_runs opened
      obtain ⟨closingPiece, closingBehind, -⟩ := reads_of_mem_runs closed
      have whole : piece = openingPiece ++ closingPiece := by
        rw [openingBehind, closingBehind, ← List.append_assoc] at behind
        exact (List.append_cancel_right behind).symm
      have openingMatches := firstMatches opened openingBehind
      have closingMatches := secondMatches closed closingBehind
      rw [closingBehind] at openingMatches
      rw [ahead] at closingMatches
      rw [whole]
      exact .inRow openingMatches closingMatches
  | either first second firstMatches secondMatches =>
      rcases List.mem_append.mp member with early | late
      · exact .early (firstMatches early behind)
      · exact .late (secondMatches late behind)
  | group inner innerMatches =>
      simp only [runs, List.mem_map] at member
      obtain ⟨innerRun, matched, rfl⟩ := member
      have inside : Matches inner before piece innerRun.rest :=
        innerMatches matched behind
      exact .group inside

theorem Matches.exists_run (matched : Matches pattern before piece after) :
    ∃ run ∈ pattern.runs before (piece ++ after), run.rest = after := by
  induction matched with
  | @empty before after =>
      exact ⟨⟨before, after, []⟩, List.mem_singleton_self _, rfl⟩
  | @one accepts c before after accepted =>
      refine ⟨⟨c :: before, after, []⟩, ?_, rfl⟩
      rw [List.singleton_append, runs, if_pos accepted]
      exact List.mem_singleton_self _
  | many some accepted => exact exists_mem_manyRuns some accepted
  | @start after => exact ⟨⟨[], after, []⟩, List.mem_singleton_self _, rfl⟩
  | @finish before => exact ⟨⟨before, [], []⟩, List.mem_singleton_self _, rfl⟩
  | @wordEdge before after edge =>
      refine ⟨⟨before, after, []⟩, ?_, rfl⟩
      rw [List.nil_append, runs, if_neg (mt beq_iff_eq.mp edge)]
      exact List.mem_singleton_self _
  | @inRow first second before opening closing after _ _ opens closes =>
      obtain ⟨openingRun, opened, openingRest⟩ := opens
      obtain ⟨closingRun, closed, closingRest⟩ := closes
      obtain ⟨piece, behind, ahead⟩ := reads_of_mem_runs opened
      obtain rfl : piece = opening := by
        rw [openingRest] at behind
        exact (List.append_cancel_right behind).symm
      rw [← ahead, ← openingRest] at closed
      refine ⟨{ closingRun with
        groups := openingRun.groups ++ closingRun.groups }, ?_, closingRest⟩
      rw [List.append_assoc]
      exact List.mem_flatMap.mpr ⟨_, opened, List.mem_map.mpr ⟨_, closed, rfl⟩⟩
  | early _ ih =>
      obtain ⟨run, member, behind⟩ := ih
      exact ⟨run, List.mem_append_left _ member, behind⟩
  | late _ ih =>
      obtain ⟨run, member, behind⟩ := ih
      exact ⟨run, List.mem_append_right _ member, behind⟩
  | group _ ih =>
      obtain ⟨run, member, behind⟩ := ih
      exact ⟨_, List.mem_map.mpr ⟨run, member, rfl⟩, behind⟩

/-- The runs of a pattern are its matches. -/
theorem exists_run_iff :
    (∃ run ∈ pattern.runs before (piece ++ after), run.rest = after) ↔
      Matches pattern before piece after := by
  constructor
  · rintro ⟨run, member, rfl⟩
    exact matches_of_mem_runs member rfl
  · exact Matches.exists_run

/-- A literal text matches what differs from it in letter case only. -/
theorem matches_ofString_iff {text : String} :
    Matches (ofString text) before piece after ↔
      piece.map fold = text.toList := by
  rw [ofString]
  induction text.toList generalizing before piece with
  | nil =>
      rw [List.foldr_nil, List.map_eq_nil_iff]
      constructor
      · rintro ⟨⟩
        rfl
      · rintro rfl
        exact .empty
  | cons c rest ih =>
      simp only [List.foldr_cons, matches_inRow_iff, matches_one_iff, ih,
        beq_iff_eq]
      constructor
      · rintro ⟨_, closing, rfl, ⟨d, rfl, same⟩, others⟩
        rw [List.singleton_append, List.map_cons, same, others]
      · intro same
        obtain ⟨d, closing, rfl, first, others⟩ := List.map_eq_cons_iff.mp same
        exact ⟨[d], closing, rfl, ⟨d, rfl, first⟩, others⟩

/-! ## What a search finds -/

theorem runs_eq_nil_iff :
    pattern.runs before rest = [] ↔
      ∀ piece after, rest = piece ++ after →
        ¬Matches pattern before piece after := by
  constructor
  · rintro none piece after rfl matched
    obtain ⟨run, member, -⟩ := matched.exists_run
    rw [none] at member
    exact List.not_mem_nil member
  · intro unmatched
    refine List.eq_nil_iff_forall_not_mem.mpr fun run member => ?_
    obtain ⟨piece, behind, -⟩ := reads_of_mem_runs member
    exact unmatched piece run.rest behind (matches_of_mem_runs member behind)

theorem findFrom?_nil_eq_none_iff :
    pattern.findFrom? before [] = none ↔ pattern.runs before [] = [] := by
  rw [findFrom?]
  split <;> simp_all

theorem findFrom?_cons_eq_none_iff {c : Char} :
    pattern.findFrom? before (c :: rest) = none ↔
      pattern.runs before (c :: rest) = [] ∧
        pattern.findFrom? (c :: before) rest = none := by
  rw [findFrom?]
  split <;> simp_all

/-- A pattern matches nowhere in a text that stands behind `before`. -/
def IsAbsent (pattern : Pattern) (before text : List Char) : Prop :=
  ∀ {ahead piece after}, text = ahead ++ piece ++ after →
    ¬Matches pattern (ahead.reverse ++ before) piece after

theorem IsAbsent.runs_eq_nil (absent : IsAbsent pattern before rest) :
    pattern.runs before rest = [] :=
  runs_eq_nil_iff.mpr fun piece after shape =>
    absent (show rest = [] ++ piece ++ after from shape)

theorem isAbsent_nil_iff :
    IsAbsent pattern before [] ↔ pattern.runs before [] = [] := by
  constructor
  · exact IsAbsent.runs_eq_nil
  · intro tried ahead piece after shape
    obtain ⟨front, rfl⟩ := List.append_eq_nil_iff.mp shape.symm
    obtain ⟨rfl, rfl⟩ := List.append_eq_nil_iff.mp front
    exact runs_eq_nil_iff.mp tried [] [] rfl

theorem isAbsent_cons_iff {c : Char} :
    IsAbsent pattern before (c :: rest) ↔
      pattern.runs before (c :: rest) = [] ∧
      IsAbsent pattern (c :: before) rest := by
  constructor
  · intro absent
    refine ⟨absent.runs_eq_nil, fun {ahead piece after} shape => ?_⟩
    have later := absent
      (show c :: rest = (c :: ahead) ++ piece ++ after by simp [shape])
    simpa using later
  · rintro ⟨tried, absent⟩ ahead piece after shape
    cases ahead with
    | nil => exact runs_eq_nil_iff.mp tried piece after shape
    | cons d ahead =>
        simp only [List.cons_append, List.cons.injEq] at shape
        obtain ⟨rfl, shape⟩ := shape
        simpa using absent shape

/-- A search that finds nothing has nothing to find. -/
theorem findFrom?_eq_none_iff :
    pattern.findFrom? before rest = none ↔ IsAbsent pattern before rest := by
  induction rest generalizing before with
  | nil => rw [findFrom?_nil_eq_none_iff, isAbsent_nil_iff]
  | cons c rest ih => rw [findFrom?_cons_eq_none_iff, isAbsent_cons_iff, ih]

end Pattern
end SchemaAtlas
