import SchemaAtlas.Initialisms
import SchemaAtlas.Proofs.Text.Symbols

/-!
# Symbols in names

Cleaning leaves no symbols but digits and underscores, and therefore a name in
camel case has no others.
-/

namespace SchemaAtlas

namespace Identifier

open Text

theorem sublist_collapse (text : List Char) : (collapse text).Sublist text := by
  induction text with
  | nil => exact .slnil
  | cons c rest ih =>
      rw [collapse]
      split
      · exact ih.cons c
      · exact ih.cons_cons c

theorem sublist_strip (text : List Char) : (strip text).Sublist text := by
  have trimmedEnd := List.reverse_sublist.mpr
    (List.dropWhile_sublist (· == separator)
      (l := (text.dropWhile isLeading).reverse))
  rw [List.reverse_reverse] at trimmedEnd
  exact trimmedEnd.trans (List.dropWhile_sublist _)

theorem mem_replaceOthers_of_mem_cleanChars {text : List Char} {c : Char}
    (membership : c ∈ cleanChars text) : c ∈ replaceOthers (trim text) :=
  ((sublist_strip _).trans (sublist_collapse _)).mem membership

theorem isPart_of_mem_cleanChars {text : List Char} {c : Char}
    (membership : c ∈ cleanChars text) : isPart c = true := by
  obtain ⟨source, _, rfl⟩ :=
    List.mem_map.mp (mem_replaceOthers_of_mem_cleanChars membership)
  split
  next part => exact part
  next => rfl

end Identifier

namespace Initialisms

open Text

variable {set : Initialisms} {symbol : Char}

theorem mem_of_mem_camelWord {word : List Char}
    (symbolic : isSymbol symbol = true)
    (membership : symbol ∈ set.camelWord word) : symbol ∈ word := by
  unfold camelWord at membership
  split at membership
  · exact mem_of_mem_upper symbolic membership
  · cases word with
    | nil => exact membership
    | cons first rest =>
        rcases List.mem_append.mp membership with head | tail
        · rw [eq_of_mem_upperChar symbolic head]
          exact List.mem_cons_self
        · obtain ⟨c, inRest, image⟩ := List.mem_flatMap.mp tail
          rw [eq_of_mem_lowerChar symbolic image]
          exact List.mem_cons_of_mem _ inRest

/-- A name in camel case holds no symbol that may not stand in an identifier. -/
theorem not_mem_camelChars {name : List Char}
    (symbolic : isSymbol symbol = true)
    (excluded : Identifier.isPart symbol = false) :
    symbol ∉ set.camelChars name := by
  intro membership
  obtain ⟨word, isWord, inCamel⟩ := List.mem_flatMap.mp membership
  have isPiece := (List.mem_filter.mp isWord).1
  have inName := mem_of_mem_splitOn isPiece
    (mem_of_mem_camelWord symbolic inCamel)
  rw [Identifier.isPart_of_mem_cleanChars inName] at excluded
  cases excluded

end Initialisms

end SchemaAtlas
