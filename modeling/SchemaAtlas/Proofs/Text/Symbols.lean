import SchemaAtlas.Proofs.Text.Ascii
import SchemaAtlas.Text.CaseMap
import SchemaAtlas.Text.Search

/-!
# Symbols in texts

A symbol is a visible ASCII character that is no letter.  Case mappings turn
letters into letters, so a symbol in a mapped text was there before.
-/

namespace SchemaAtlas.Text

def isSymbol (c : Char) : Bool :=
  decide (32 ≤ c.toNat) && isAscii c && !c.isAlpha

/-- Whether a shift leads from its code points to letters or out of the ASCII
range. -/
def keepsFromSymbols : Nat × Nat × Nat × Int → Bool
  | (first, last, _, offset) =>
    decide (128 ≤ first + offset) ||
      decide (first = last) && (Char.ofNat (first + offset).toNat).isAlpha

theorem toNat_ofNat_of_isValidChar {code : Nat} (valid : code.isValidChar) :
    (Char.ofNat code).toNat = code := by
  rw [Char.ofNat, dif_pos valid]
  rfl

private theorem isSymbol_ofNat_of_le {code : Nat} (large : 128 ≤ code) :
    isSymbol (Char.ofNat code) = false := by
  by_cases valid : code.isValidChar
  · have same := toNat_ofNat_of_isValidChar valid
    have outside : ¬ code < 128 := Nat.not_lt.mpr large
    simp [isSymbol, isAscii, same, outside]
  · rw [Char.ofNat, dif_neg valid]
    decide

/-- The image of a code point under shifts that keep from symbols is no
symbol. -/
theorem isSymbol_image? {shifts : Shifts}
    (keep : shifts.all keepsFromSymbols = true) {code : Nat} {image : Char}
    (found : shifts.image? code = some image) : isSymbol image = false := by
  obtain ⟨⟨first, last, step, offset⟩, held, rfl⟩ :=
    Option.map_eq_some_iff.mp found
  have keeps := List.all_eq_true.mp keep _ (List.mem_of_find?_eq_some held)
  have within := List.find?_some held
  simp only [Bool.and_eq_true, decide_eq_true_eq] at within
  simp only [keepsFromSymbols, Bool.or_eq_true, Bool.and_eq_true,
    decide_eq_true_eq] at keeps
  rcases keeps with large | ⟨single, letter⟩
  · apply isSymbol_ofNat_of_le
    omega
  · have same : code = first := by omega
    simp [isSymbol, same, letter]

private theorem isSymbol_of_expansion {expansions : List (Nat × List Nat)}
    (keep : (expansions.all fun entry =>
      entry.2.all fun code => !isSymbol (Char.ofNat code)) = true)
    {code : Nat} {codes : List Nat}
    (found : expansions.lookup code = some codes)
    {image : Char} (membership : image ∈ codes.map Char.ofNat) :
    isSymbol image = false := by
  obtain ⟨before, behind, rfl, _⟩ := List.lookup_eq_some_iff.mp found
  have keeps := List.all_eq_true.mp keep (code, codes) (by simp)
  obtain ⟨number, inCodes, rfl⟩ := List.mem_map.mp membership
  simpa using List.all_eq_true.mp keeps number inCodes

theorem isAlpha_of_isSymbol {c : Char} (symbolic : isSymbol c = true) :
    c.isAlpha = false := by
  rw [isSymbol, Bool.and_eq_true, Bool.not_eq_true'] at symbolic
  exact symbolic.2

/-- A symbol in the image of a character under a case mapping, which is given by
what it does to ASCII characters and by its tables, is that character. -/
theorem eq_of_mem_image {symbol c plain : Char}
    {expansions : List (Nat × List Nat)} {shifts : Shifts}
    (expansionsKeep : (expansions.all fun entry =>
      entry.2.all fun code => !isSymbol (Char.ofNat code)) = true)
    (shiftsKeep : shifts.all keepsFromSymbols = true)
    (plainKeeps : isAscii c = true → plain.isAlpha = false → plain = c)
    (symbolic : isSymbol symbol = true)
    (membership : symbol ∈
      if isAscii c then [plain]
      else
        match expansions.lookup c.toNat with
        | some codes => codes.map Char.ofNat
        | none => [(shifts.image? c.toNat).getD c]) : symbol = c := by
  split at membership
  next ascii =>
    rw [List.mem_singleton] at membership
    subst membership
    exact plainKeeps ascii (isAlpha_of_isSymbol symbolic)
  · split at membership
    next codes found =>
      rw [isSymbol_of_expansion expansionsKeep found membership] at symbolic
      cases symbolic
    next =>
      rw [List.mem_singleton] at membership
      cases found : shifts.image? c.toNat with
      | none => rw [membership, found, Option.getD_none]
      | some image =>
          rw [membership, found, Option.getD_some,
            isSymbol_image? shiftsKeep found] at symbolic
          cases symbolic

/-- The ASCII lowercase form of a character is no letter only if it is that
character. -/
theorem eq_of_toLower_eq {symbol c : Char} (notAlpha : symbol.isAlpha = false)
    (lowered : c.toLower = symbol) : c = symbol := by
  subst lowered
  by_cases ascii : isAscii c = true
  · exact (of_isAscii (fun c => c.toLower.isAlpha = false → c.toLower = c)
      (by decide) ascii notAlpha).symm
  · have unchanged : c.toLower = c := by
      apply dif_neg
      rintro ⟨_, atMostZ⟩
      rw [UInt32.le_iff_toNat_le] at atMostZ
      change c.toNat ≤ 90 at atMostZ
      exact ascii (decide_eq_true (by omega))
    exact unchanged.symm

theorem eq_of_mem_upperChar {symbol c : Char}
    (symbolic : isSymbol symbol = true)
    (membership : symbol ∈ upperChar c) : symbol = c := by
  refine eq_of_mem_image (by decide) (by decide) ?_ symbolic membership
  exact of_isAscii (fun c => c.toUpper.isAlpha = false → c.toUpper = c)
    (by decide)

theorem eq_of_mem_lowerChar {symbol c : Char}
    (symbolic : isSymbol symbol = true)
    (membership : symbol ∈ lowerChar c) : symbol = c := by
  refine eq_of_mem_image (by decide) (by decide) ?_ symbolic membership
  exact fun _ notAlpha => (eq_of_toLower_eq notAlpha rfl).symm

theorem mem_of_mem_upper {symbol : Char} {text : List Char}
    (symbolic : isSymbol symbol = true) (membership : symbol ∈ upper text) :
    symbol ∈ text := by
  obtain ⟨c, inText, image⟩ := List.mem_flatMap.mp membership
  rw [eq_of_mem_upperChar symbolic image]
  exact inText

theorem lowerChar_of_isSymbol {symbol : Char}
    (symbolic : isSymbol symbol = true) : lowerChar symbol = [symbol] := by
  have ascii := (Bool.and_eq_true_iff.mp (Bool.and_eq_true_iff.mp symbolic).1).2
  have notUpper := (Bool.or_eq_false_iff.mp (isAlpha_of_isSymbol symbolic)).1
  rw [lowerChar_of_ascii ascii, toLower_of_not_isUpper notUpper]

/-- Every letter but the capital sigma is lowercased in the same way in every
place. -/
theorem mem_lowerAfter_of_mem {before text : List Char} {c image : Char}
    (membership : c ∈ text) (notSigma : c ≠ capitalSigma)
    (isImage : image ∈ lowerChar c) : image ∈ lowerAfter before text := by
  induction text generalizing before with
  | nil => cases membership
  | cons first rest ih =>
      rw [lowerAfter, List.mem_append]
      rcases List.mem_cons.mp membership with rfl | later
      · rw [if_neg notSigma]
        exact Or.inl isImage
      · exact Or.inr (ih later)

theorem mem_lower_of_mem {symbol : Char} {text : List Char}
    (symbolic : isSymbol symbol = true) (membership : symbol ∈ text) :
    symbol ∈ lower text := by
  have notSigma : symbol ≠ capitalSigma := by
    rintro rfl
    exact absurd symbolic (by decide)
  apply mem_lowerAfter_of_mem membership notSigma
  rw [lowerChar_of_isSymbol symbolic]
  exact List.mem_cons_self

theorem mem_of_mem_splitOn {separator c : Char} {text piece : List Char}
    (isPiece : piece ∈ splitOn separator text) (membership : c ∈ piece) :
    c ∈ text := by
  induction text generalizing piece with
  | nil =>
      rw [splitOn, List.mem_singleton] at isPiece
      rw [isPiece] at membership
      exact membership
  | cons first rest ih =>
      rw [splitOn] at isPiece
      split at isPiece
      · rcases List.mem_cons.mp isPiece with rfl | later
        · cases membership
        · exact List.mem_cons_of_mem _ (ih later membership)
      · split at isPiece
        next noPieces => exact absurd noPieces (splitOn_ne_nil _ _)
        next head pieces shape =>
          rcases List.mem_cons.mp isPiece with rfl | later
          · rcases List.mem_cons.mp membership with rfl | inHead
            · exact List.mem_cons_self
            · refine List.mem_cons_of_mem _ (ih ?_ inHead)
              rw [shape]
              exact List.mem_cons_self
          · refine List.mem_cons_of_mem _ (ih ?_ membership)
            rw [shape]
            exact List.mem_cons_of_mem _ later

end SchemaAtlas.Text
