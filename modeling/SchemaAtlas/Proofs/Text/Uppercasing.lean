import SchemaAtlas.Proofs.Text.Lowercasing

/-!
# Uppercase characters

The uppercase mapping leads out of the characters that are in lowercase: where
it changes a character, one at least of those that it puts in its place has a
lowercase form other than itself.  A text that uppercasing leaves in lowercase
is therefore left as it is.  No character is dropped, so uppercasing never
shortens a text.
-/

namespace SchemaAtlas.Text

namespace Shifts

variable {shifts : Shifts} {code : Nat}

private theorem exists_image?_of_mem
    (ordered : ∀ shift ∈ shifts, shift.1 ≤ shift.2.1)
    (isSource : code ∈ shifts.sources) :
    ∃ image, shifts.image? code = some image := by
  obtain ⟨⟨first, last, step, offset⟩, inTable, onComb⟩ :=
    List.mem_flatMap.mp isSource
  obtain ⟨index, within, rfl⟩ := List.mem_map.mp onComb
  -- A comb with its ends in order has each of its code points between them.
  have begins : first ≤ last := ordered _ inTable
  have ends : index * step ≤ last - first := by
    rw [List.mem_range, Nat.lt_succ_iff] at within
    exact Nat.le_trans (Nat.mul_le_mul_right step within)
      (Nat.div_mul_le_self _ _)
  rw [image?, ← Option.isSome_iff_exists, Option.isSome_map, List.find?_isSome]
  refine ⟨_, inTable, ?_⟩
  simp
  omega

end Shifts

private theorem subset_of_marks {left right : List Nat}
    (covered : marks left ||| marks right = marks right) : left ⊆ right := by
  intro code inLeft
  rw [← testBit_marks, ← covered, Nat.testBit_or, testBit_marks.mpr inLeft]
  rfl

private theorem not_isAscii_of_mem_sources {c : Char}
    (isSource : c.toNat ∈ lowercaseShifts.sources) : isAscii c = false := by
  have each : lowercaseShifts.sources.all (128 ≤ ·) = true := by decide +kernel
  have large := of_decide_eq_true (List.all_eq_true.mp each _ isSource)
  exact decide_eq_false (by omega)

theorem lowerChar_ne_of_mem_sources {c : Char}
    (isSource : c.toNat ∈ lowercaseShifts.sources) : lowerChar c ≠ [c] := by
  by_cases dotted : c.toNat = 0x130
  · have isDotted : c = 'İ' := Char.toNat_inj.mp dotted
    rw [isDotted]
    decide
  · have ordered : lowercaseShifts.all (fun shift => shift.1 ≤ shift.2.1) =
        true := by
      decide +kernel
    obtain ⟨image, found⟩ := Shifts.exists_image?_of_mem
      (fun shift inTable =>
        of_decide_eq_true (List.all_eq_true.mp ordered _ inTable))
      isSource
    obtain ⟨_, target, isTarget, rfl⟩ := Shifts.mem_of_image? found
    have unexpanded : lowercaseExpansions.lookup c.toNat = none := by
      simpa [lowercaseExpansions, List.lookup_eq_none_iff] using dotted
    intro kept
    simp only [lowerChar, not_isAscii_of_mem_sources isSource, unexpanded,
      found, Bool.false_eq_true, if_false, Option.getD_some, List.cons.injEq,
      and_true] at kept
    have allowed := isLowercaseTarget_of_mem isTarget
    simp only [isLowercaseTarget, Bool.and_eq_true,
      decide_eq_true_eq] at allowed
    -- A character that is its own image would be a target and a source of the
    -- shifts.
    have same : c.toNat = target := by
      rw [← kept, toNat_ofNat_of_isValidChar allowed.1.1]
    rw [same] at isSource
    exact disjoint_lowercaseShifts isTarget isSource

/-- What the uppercase shifts lead to is moved by the lowercase shifts, but for
the two capitals that they lead to in the ASCII range. -/
theorem targets_uppercaseShifts_subset : uppercaseShifts.targets ⊆
    'I'.toNat :: 'S'.toNat :: lowercaseShifts.sources := by
  apply subset_of_marks
  decide +kernel

private theorem isValidChar_of_mem_targets {target : Nat}
    (isTarget : target ∈ uppercaseShifts.targets) : target.isValidChar := by
  have each : uppercaseShifts.targets.all (fun target => target.isValidChar) =
      true := by
    decide +kernel
  exact of_decide_eq_true (List.all_eq_true.mp each _ isTarget)

private theorem lowerChar_ne_of_mem_targets {target : Nat}
    (isTarget : target ∈ uppercaseShifts.targets) :
    lowerChar (Char.ofNat target) ≠ [Char.ofNat target] := by
  have listed := targets_uppercaseShifts_subset isTarget
  rw [List.mem_cons, List.mem_cons] at listed
  rcases listed with rfl | rfl | isSource
  · decide
  · decide
  · apply lowerChar_ne_of_mem_sources
    rwa [toNat_ofNat_of_isValidChar (isValidChar_of_mem_targets isTarget)]

private theorem exists_lowerChar_ne_of_expansion {code : Nat} {codes : List Nat}
    (expanded : uppercaseExpansions.lookup code = some codes) :
    ∃ d ∈ codes.map Char.ofNat, lowerChar d ≠ [d] := by
  have each : (uppercaseExpansions.all fun expansion =>
      expansion.2.any fun code =>
      lowerChar (Char.ofNat code) != [Char.ofNat code]) = true := by
    decide +kernel
  obtain ⟨before, behind, table, _⟩ := List.lookup_eq_some_iff.mp expanded
  have changed := List.all_eq_true.mp each (code, codes) (by simp [table])
  obtain ⟨number, inCodes, moved⟩ := List.any_eq_true.mp changed
  exact ⟨_, List.mem_map_of_mem inCodes, bne_iff_ne.mp moved⟩

/-- Uppercasing a character changes nothing, or some of what it leads to is not
in lowercase. -/
theorem upperChar_eq_self_of_lower {c : Char}
    (small : ∀ d ∈ upperChar c, lowerChar d = [d]) : upperChar c = [c] := by
  cases ascii : isAscii c with
  | true =>
      rw [upperChar_of_ascii ascii] at small ⊢
      exact of_isAscii (fun c => lowerChar c.toUpper = [c.toUpper] →
        [c.toUpper] = [c])
        (by decide) ascii (small _ List.mem_cons_self)
  | false =>
      rw [upperChar, if_neg (by simp [ascii])] at small ⊢
      cases expanded : uppercaseExpansions.lookup c.toNat with
      | some codes =>
          rw [expanded] at small
          obtain ⟨d, isImage, moved⟩ :=
            exists_lowerChar_ne_of_expansion expanded
          exact absurd (small d isImage) moved
      | none =>
          cases found : uppercaseShifts.image? c.toNat with
          | none => rfl
          | some image =>
              obtain ⟨_, target, isTarget, rfl⟩ := Shifts.mem_of_image? found
              rw [expanded, found] at small
              exact absurd (small _ List.mem_cons_self)
                (lowerChar_ne_of_mem_targets isTarget)

theorem upper_eq_self_of_lower {text : List Char}
    (small : ∀ d ∈ upper text, lowerChar d = [d]) : upper text = text := by
  induction text with
  | nil => rfl
  | cons c rest ih =>
      rw [upper_cons] at small ⊢
      obtain ⟨first, later⟩ := List.forall_mem_append.mp small
      rw [upperChar_eq_self_of_lower first, ih later, List.singleton_append]

theorem upperChar_ne_nil (c : Char) : upperChar c ≠ [] := by
  have filled : (uppercaseExpansions.all fun entry => !entry.2.isEmpty) =
      true :=
    by decide
  rw [upperChar]
  split
  · exact List.cons_ne_nil _ _
  · split
    next codes found =>
      obtain ⟨before, behind, shape, _⟩ := List.lookup_eq_some_iff.mp found
      have inTable : (c.toNat, codes) ∈ uppercaseExpansions := by
        rw [shape]
        simp
      simpa using List.all_eq_true.mp filled _ inTable
    next => exact List.cons_ne_nil _ _

theorem length_le_length_upper (text : List Char) :
    text.length ≤ (upper text).length := by
  induction text with
  | nil => exact Nat.le_refl _
  | cons c rest ih =>
      have filled := List.length_pos_iff.mpr (upperChar_ne_nil c)
      rw [upper_cons, List.length_append, List.length_cons]
      omega

end SchemaAtlas.Text
