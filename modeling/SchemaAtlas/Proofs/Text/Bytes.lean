import SchemaAtlas.Proofs.Text.Lowercasing

/-!
# Widths in bytes

A text can be cut after a number of bytes exactly where one of its beginnings
has that width, and then in one way only.  What a text is lowercased to may
depend on what stands before it, but its width does not: both small forms of the
capital sigma, the one letter that looks at its surroundings, have the same
width.
-/

namespace SchemaAtlas.Text

variable {count : Nat} {text head tail : List Char}

@[simp] theorem byteLength_nil : byteLength [] = 0 := rfl

@[simp] theorem byteLength_cons (c : Char) (rest : List Char) :
    byteLength (c :: rest) = c.utf8Size + byteLength rest := rfl

@[simp] theorem byteLength_append (front rest : List Char) :
    byteLength (front ++ rest) = byteLength front + byteLength rest := by
  induction front with
  | nil => simp
  | cons c front ih => simp [ih, Nat.add_assoc]

theorem byteLength_eq_zero_iff : byteLength text = 0 ↔ text = [] := by
  cases text with
  | nil => simp
  | cons c rest =>
      have wide := c.utf8Size_pos
      simp
      omega

theorem byteLength_eq_utf8ByteSize (text : List Char) :
    byteLength text = (String.ofList text).utf8ByteSize := by
  induction text with
  | nil => simp
  | cons c rest ih =>
      rw [byteLength_cons, ih, String.ofList_cons, String.utf8ByteSize_append,
        String.utf8ByteSize_singleton]

/-! ## Cuts -/

theorem splitAtByte?_append (head tail : List Char) :
    splitAtByte? (byteLength head) (head ++ tail) = some (head, tail) := by
  induction head with
  | nil => simp [splitAtByte?]
  | cons c head ih =>
      -- A character takes a byte at least, so the cut is not in front of it.
      have wide := c.utf8Size_pos
      obtain ⟨count, width⟩ : ∃ count, byteLength (c :: head) = count + 1 :=
        Nat.exists_eq_succ_of_ne_zero (by simp; omega)
      have fits : c.utf8Size ≤ count + 1 := by
        rw [← width, byteLength_cons]
        omega
      have left : count + 1 - c.utf8Size = byteLength head := by
        rw [← width, byteLength_cons]
        omega
      rw [width, List.cons_append, splitAtByte?, if_pos fits, left, ih]
      rfl

/-- A text is cut after a number of bytes where a beginning of that width
ends. -/
theorem splitAtByte?_eq_some_iff : splitAtByte? count text = some (head, tail) ↔
    text = head ++ tail ∧ byteLength head = count := by
  constructor
  · exact eq_of_splitAtByte?
  · rintro ⟨rfl, rfl⟩
    exact splitAtByte?_append head tail

private theorem append_inj_of_byteLength {head' tail' : List Char}
    (same : head ++ tail = head' ++ tail')
    (width : byteLength head = byteLength head') :
    head = head' ∧ tail = tail' := by
  have cut := splitAtByte?_append head tail
  rw [same, width, splitAtByte?_append] at cut
  simpa [eq_comm] using cut

theorem eq_of_isSuffix_of_byteLength {ending ending' : List Char}
    (isSuffix : ending <:+ text) (isSuffix' : ending' <:+ text)
    (width : byteLength ending = byteLength ending') : ending = ending' := by
  obtain ⟨front, rfl⟩ := isSuffix
  obtain ⟨front', same⟩ := isSuffix'
  have whole := congrArg byteLength same
  rw [byteLength_append, byteLength_append] at whole
  exact (append_inj_of_byteLength same.symm (by omega)).2

/-! ## Lowercasing in parts -/

theorem byteLength_lowerAfter (before text : List Char) :
    byteLength (lowerAfter before text) =
      byteLength (text.flatMap lowerChar) := by
  induction text generalizing before with
  | nil => rfl
  | cons c rest ih =>
      rw [lowerAfter, byteLength_append, ih, List.flatMap_cons,
        byteLength_append]
      congr 1
      split
      next isSigma =>
        rw [isSigma]
        rcases lowerSigma_cases before rest with isFinal | isInner
        · rw [isFinal]
          decide
        · rw [isInner]
          decide
      next => rfl

theorem byteLength_flatMap_of_kept {convert : Char → List Char}
    (kept : ∀ c ∈ text, byteLength (convert c) = c.utf8Size) :
    byteLength (text.flatMap convert) = byteLength text := by
  induction text with
  | nil => rfl
  | cons c rest ih =>
      obtain ⟨first, later⟩ := List.forall_mem_cons.mp kept
      rw [List.flatMap_cons, byteLength_append, first, ih later,
        byteLength_cons]

/-- The second part of a text is lowercased behind the first one as its
context. -/
theorem isSuffix_lowerAfter_append (before front rest : List Char) :
    lowerAfter (front.reverse ++ before) rest <:+
      lowerAfter before (front ++ rest) := by
  induction front generalizing before with
  | nil => exact List.suffix_refl _
  | cons c front ih =>
      -- The characters of the front go into the reversed context one by one.
      have later := ih (c :: before)
      rw [List.cons_append, lowerAfter, List.reverse_cons, List.append_assoc]
      exact later.trans (List.suffix_append _ _)

theorem isSuffix_lower_append (front rest : List Char) :
    lowerAfter front.reverse rest <:+ lower (front ++ rest) := by
  have behind := isSuffix_lowerAfter_append [] front rest
  rwa [List.append_nil] at behind

theorem byteLength_lower (text : List Char) :
    byteLength (lower text) = byteLength (text.flatMap lowerChar) :=
  byteLength_lowerAfter [] text

end SchemaAtlas.Text
