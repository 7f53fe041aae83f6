import SchemaAtlas.Initialisms
import SchemaAtlas.Proofs.Text.Uppercasing

/-!
# The search for an initialism

A set of initialisms that was built up by its own operations has no entry of
fewer than two characters, since uppercasing never shortens a text.  The search
at the beginning of a text goes down from the longest run of capitals that an
entry could fill.  It therefore finds an entry of capitals that stands there,
unless a longer entry does.
-/

namespace SchemaAtlas

namespace Initialisms

open Text

variable {set : Initialisms} {text entry : List Char}

/-- A set of initialisms that was built up from nothing or from the common
ones. -/
inductive Built : Initialisms → Prop where
  | empty : Built empty
  | common : Built common
  | add {set larger : Initialisms} {initialism : String} (built : Built set)
      (added : set.add initialism = .ok larger) : Built larger

namespace Built

/-- Adding several initialisms builds up a set, also if it ends at a bad one. -/
theorem addEach (built : Built set) (initialisms : List String) :
    Built (set.addEach initialisms).1 := by
  induction initialisms generalizing set with
  | nil => exact built
  | cons initialism rest ih =>
      rw [Initialisms.addEach]
      split
      next larger added => exact ih (built.add added)
      next => exact built

theorem addAll {larger : Initialisms} {initialisms : List String}
    (built : Built set) (added : set.addAll initialisms = .ok larger) :
    Built larger := by
  have each := built.addEach initialisms
  rw [Initialisms.addAll] at added
  split at added
  next reached outcome =>
    cases added
    rwa [outcome] at each
  next => cases added

theorem ofList {initialisms : List String}
    (made : Initialisms.ofList initialisms = .ok set) : Built set :=
  empty.addAll made

theorem two_le_length (built : Built set) :
    ∀ entry ∈ set.entries, 2 ≤ entry.length := by
  induction built with
  | empty => simp [Initialisms.empty]
  | common => decide
  | @add _ _ initialism built added ih =>
      rw [Initialisms.add] at added
      split at added
      · cases added
      next long =>
        cases added
        intro entry membership
        rcases List.mem_cons.mp membership with rfl | earlier
        · have kept := length_le_length_upper initialism.toList
          rw [String.length_toList] at kept
          omega
        · exact ih entry earlier

end Built

/-- An entry of at least two letters that a text begins with. -/
structure Starts (set : Initialisms) (entry text : List Char) : Prop where
  registered : entry ∈ set.entries
  long : 2 ≤ entry.length
  start : entry <+: text

/-- A size that the search passes over is that of no entry. -/
theorem Starts.length_le_succ_iff {run : List Char} {size : Nat}
    (passed : ¬ (1 ≤ size ∧ set.entries.contains (run.take (size + 1)) = true))
    (starts : set.Starts entry run) :
    entry.length ≤ size + 1 ↔ entry.length ≤ size := by
  refine ⟨fun fits => ?_, Nat.le_succ_of_le⟩
  refine Nat.le_of_lt_add_one (Nat.lt_of_le_of_ne fits fun full => passed ?_)
  have isEntry : entry = run.take (size + 1) := by
    rw [← full]
    exact List.prefix_iff_eq_take.mp starts.start
  have long := starts.long
  refine ⟨by omega, List.contains_iff_mem.mpr ?_⟩
  rw [← isEntry]
  exact starts.registered

section Search

variable {run : List Char} {size : Nat}

private theorem starts_take_of_registered (within : size + 1 ≤ run.length)
    (here : 1 ≤ size ∧ set.entries.contains (run.take (size + 1)) = true) :
    set.Starts (run.take (size + 1)) run where
  registered := List.contains_iff_mem.mp here.2
  long := by
    rw [List.length_take_of_le within]
    omega
  start := List.take_prefix _ _

/-- The search ends at the longest entry that it does not begin below. -/
theorem longestEntry?_eq_some_iff (within : size ≤ run.length) :
    set.longestEntry? run size = some entry ↔
      (set.Starts entry run ∧ entry.length ≤ size) ∧
        ∀ other, set.Starts other run → other.length ≤ size →
          other.length ≤ entry.length := by
  induction size with
  | zero =>
      constructor
      · intro found
        cases found
      · rintro ⟨⟨starts, empty⟩, _⟩
        have long := starts.long
        omega
  | succ size ih =>
      unfold longestEntry?
      split
      next here =>
        have starts := starts_take_of_registered within here
        have length : (run.take (size + 1)).length = size + 1 :=
          List.length_take_of_le within
        constructor
        · intro found
          cases found
          exact ⟨⟨starts, by omega⟩, fun _ _ fits => by omega⟩
        · rintro ⟨⟨other, fits⟩, longest⟩
          have atLeast := longest _ starts (by omega)
          have full : entry.length = size + 1 := by omega
          rw [List.prefix_iff_eq_take.mp other.start, full]
      next passed =>
        rw [ih (by omega)]
        refine and_congr (and_congr_right fun starts =>
          (starts.length_le_succ_iff passed).symm)
            (forall_congr' fun other => ?_)
        exact imp_congr_right fun starts =>
          imp_congr_left (starts.length_le_succ_iff passed).symm

theorem longestEntry?_eq_none_iff (within : size ≤ run.length) :
    set.longestEntry? run size = none ↔
      ∀ other, set.Starts other run → ¬ other.length ≤ size := by
  induction size with
  | zero =>
      refine ⟨fun _ other starts empty => ?_, fun _ => rfl⟩
      have long := starts.long
      omega
  | succ size ih =>
      unfold longestEntry?
      split
      next here =>
        constructor
        · intro found
          cases found
        · intro longer
          exact absurd (List.length_take_le _ _)
            (longer _ (starts_take_of_registered within here))
      next passed =>
        rw [ih (by omega)]
        refine forall_congr' fun other => imp_congr_right fun starts => ?_
        rw [starts.length_le_succ_iff passed]

/-- The search through a whole run finds its longest entry. -/
theorem longestEntry?_length_eq_some_iff :
    set.longestEntry? run run.length = some entry ↔ set.Starts entry run ∧
      ∀ other, set.Starts other run → other.length ≤ entry.length := by
  rw [longestEntry?_eq_some_iff (Nat.le_refl _)]
  constructor
  · rintro ⟨⟨starts, _⟩, longest⟩
    exact ⟨starts, fun other inRun =>
      longest other inRun inRun.start.length_le⟩
  · rintro ⟨starts, longest⟩
    exact ⟨⟨starts, starts.start.length_le⟩, fun other inRun _ =>
      longest other inRun⟩

theorem longestEntry?_length_eq_none_iff :
    set.longestEntry? run run.length = none ↔
      ∀ other, ¬ set.Starts other run := by
  rw [longestEntry?_eq_none_iff (Nat.le_refl _)]
  exact forall_congr' fun other =>
    ⟨fun longer inRun => longer inRun inRun.start.length_le,
      fun absent inRun => absurd inRun absent⟩

end Search

/-- What begins the run of capitals is an entry of capitals that begins the
text. -/
theorem starts_capitals_iff :
    set.Starts entry (text.takeWhile isUppercase) ↔
      set.Starts entry text ∧ ∀ c ∈ entry, isUppercase c = true := by
  constructor
  · intro starts
    refine ⟨⟨starts.registered, starts.long,
      starts.start.trans (List.takeWhile_prefix _)⟩, ?_⟩
    exact fun c membership => List.all_eq_true.mp List.all_takeWhile c
      (starts.start.mem membership)
  · rintro ⟨starts, capitals⟩
    refine ⟨starts.registered, starts.long, ?_⟩
    obtain ⟨behind, rfl⟩ := starts.start
    rw [List.takeWhile_append_of_pos capitals]
    exact List.prefix_append _ _

theorem starts_take_iff :
    set.Starts entry (text.take set.longest) ↔ set.Starts entry text := by
  constructor
  · intro starts
    exact ⟨starts.registered, starts.long,
      starts.start.trans (List.take_prefix _ _)⟩
  · intro starts
    exact ⟨starts.registered, starts.long, List.prefix_take_iff.mpr
      ⟨starts.start, set.length_le_longest _ starts.registered⟩⟩

/-- The part of a text that is looked at holds every entry that stands in
capitals at its beginning. -/
theorem starts_looked_iff :
    set.Starts entry ((text.take set.longest).takeWhile isUppercase) ↔
      set.Starts entry text ∧ ∀ c ∈ entry, isUppercase c = true := by
  rw [starts_capitals_iff, starts_take_iff]

/-- What is found at the beginning of a text is the longest entry of capitals
there. -/
theorem peek?_eq_some_iff : set.peek? text = some entry ↔
    (set.Starts entry text ∧ ∀ c ∈ entry, isUppercase c = true) ∧
      ∀ other, set.Starts other text → (∀ c ∈ other, isUppercase c = true) →
        other.length ≤ entry.length := by
  rw [peek?, longestEntry?_length_eq_some_iff]
  simp only [starts_looked_iff, and_imp]

theorem peek?_eq_none_iff : set.peek? text = none ↔
    ∀ entry, ¬ (set.Starts entry text ∧ ∀ c ∈ entry, isUppercase c = true) := by
  rw [peek?, longestEntry?_length_eq_none_iff]
  simp only [starts_looked_iff]

/-- An entry of capitals that stands at the beginning of a text is found there,
unless a longer entry does so too. -/
theorem peek?_eq_some (registered : entry ∈ set.entries)
    (long : 2 ≤ entry.length)
    (capitals : ∀ c ∈ entry, isUppercase c = true) (start : entry <+: text)
    (longest : ∀ other ∈ set.entries, entry.length < other.length →
      ¬ other <+: text) : set.peek? text = some entry := by
  refine peek?_eq_some_iff.mpr ⟨⟨⟨registered, long, start⟩, capitals⟩, ?_⟩
  intro other starts _
  refine Nat.le_of_not_lt fun longer => ?_
  exact longest other starts.registered longer starts.start

/-- Nothing is found at fewer than two capitals. -/
theorem peek?_eq_none (short : (text.takeWhile isUppercase).length < 2) :
    set.peek? text = none := by
  rw [Option.eq_none_iff_forall_ne_some]
  intro entry found
  have inRun := starts_capitals_iff.mpr (peek?_eq_some_iff.mp found).1
  have long := inRun.long
  have fits := inRun.start.length_le
  omega

/-- No unit of several characters begins with one that is no capital. -/
theorem unitAfter?_of_not_isUppercase {preceding : Preceding} {c : Char}
    {rest : List Char} (small : isUppercase c = false) :
    set.unitAfter? preceding (c :: rest) = none := by
  have found : set.peek? (c :: rest) = none := by
    apply peek?_eq_none
    simp [small]
  rw [unitAfter?, found, ite_self]

end Initialisms

end SchemaAtlas
